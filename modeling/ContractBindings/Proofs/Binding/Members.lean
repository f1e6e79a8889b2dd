import ContractBindings.Proofs.Binding.Lookup
import ContractBindings.Proofs.Binding.Traversal

/-!
# Methods and events of a model

A model is classified for the display names of its structs, and what is bound in it is declared
(`traversal_of_bind`). Declaring changes nothing else (`Classification.methods_declared`,
`Classification.arguments_declared`), and in a classification for given names the methods are those
of the bound functions (`mem_methods_iff`) and the events those of the bound events
(`mem_events_iff`).
-/

namespace ContractBindings

open StructRegistry (ofTraversal)

/-! ### Parts of a classification -/

/-- The arguments of a method, inputs before outputs. -/
def BoundMethod.arguments (method : BoundMethod) : List BoundArgument :=
  method.inputs ++ method.outputs

/-- The bound methods of a classification. -/
def Classification.methods (result : Classification) : List BoundMethod :=
  (result.calls.entries ++ result.transacts.entries).map (·.2)

/-- The arguments of all methods and events and of the constructor. -/
def Classification.arguments (result : Classification) : List BoundArgument :=
  result.methods.flatMap BoundMethod.arguments ++
    (result.events.entries.flatMap (·.2.inputs) ++
      result.constructor.toList.flatMap BoundMethod.arguments)

/-- The declarations of all methods and events and of the constructor. -/
def Classification.declarations (result : Classification) : List String :=
  result.methods.map (·.declaration) ++
    (result.events.entries.map (·.2.declaration) ++
      result.constructor.toList.map (·.declaration))

/-- An argument is one of a method, an event or the constructor. -/
theorem Classification.mem_arguments_iff {result : Classification} {argument : BoundArgument} :
    argument ∈ result.arguments ↔ (∃ method ∈ result.methods, argument ∈ method.arguments) ∨
      (∃ entry ∈ result.events.entries, argument ∈ entry.2.inputs) ∨
        ∃ method ∈ result.constructor, argument ∈ method.arguments := by
  simp only [arguments, List.mem_append, List.mem_flatMap, Option.mem_toList, Option.mem_def]

section Declared

variable (structs : StructRegistry) (result : Classification)

theorem Classification.methods_declared :
    (result.declared structs).methods = result.methods.map (·.declared structs) := by
  rw [methods, methods, List.map_map, List.map_append, List.map_append]
  rw [declared, TextMap.map, TextMap.map, List.map_map, List.map_map]
  rfl

/-- A declared classification has the arguments that it had before. -/
theorem Classification.arguments_declared :
    (result.declared structs).arguments = result.arguments := by
  have hevents : (result.declared structs).events.entries.flatMap (·.2.inputs) =
      result.events.entries.flatMap (·.2.inputs) := List.flatMap_map ..
  have hconstructor : (result.declared structs).constructor.toList.flatMap BoundMethod.arguments =
      result.constructor.toList.flatMap BoundMethod.arguments := by
    rw [declared]
    cases result.constructor <;> rfl
  rw [arguments, arguments, methods_declared, List.flatMap_map, hevents, hconstructor]
  rfl

end Declared

/-! ### Classifications for given display names -/

section Named

variable {language : Language} {names : String → String} {customs : Customs} {abi : ContractAbi}

/-- The methods of a classification for given names are those of the bound functions. -/
theorem mem_methods_iff {method : BoundMethod} :
    method ∈ (namedClassification language names customs abi).methods ↔
      ∃ keyed ∈ withKeys language AbiFunction.name (abi.boundFunctions customs),
        method = namedMethod language names keyed.1 keyed.2 := by
  have hkeys : ((withKeys language AbiFunction.name (abi.boundFunctions customs)).map fun keyed =>
      (keyed.1, namedMethod language names keyed.1 keyed.2)).Pairwise fun a b => a.1 ≠ b.1 :=
    List.pairwise_map.mpr ContractAbi.distinct_withKeys
  rw [Classification.methods, List.mem_map]
  constructor
  · rintro ⟨entry, hentry, rfl⟩
    obtain ⟨keyed, hkeyed, rfl⟩ :=
      List.mem_map.mp ((Classification.mem_entries_ofBound hkeys).mp hentry)
    exact ⟨keyed, hkeyed, rfl⟩
  · rintro ⟨keyed, hkeyed, rfl⟩
    exact ⟨_, (Classification.mem_entries_ofBound hkeys).mpr (List.mem_map_of_mem hkeyed), rfl⟩

theorem exists_of_mem_methods {method : BoundMethod}
    (h : method ∈ (namedClassification language names customs abi).methods) :
    ∃ f key, f.tuples ⊆ abi.traversal customs ∧ method = namedMethod language names key f := by
  obtain ⟨⟨key, f⟩, hkeyed, heq⟩ := mem_methods_iff.mp h
  refine ⟨f, key, fun fields hfields => List.mem_append_left _ ?_, heq⟩
  rw [← flatMap_withKeys language AbiFunction.name]
  exact List.mem_flatMap.mpr ⟨(key, f), hkeyed, hfields⟩

/-- The events of a classification for given names are those of the bound events. -/
theorem mem_events_iff {entry : String × BoundEvent} :
    entry ∈ (namedClassification language names customs abi).events.entries ↔
      ∃ keyed ∈ withKeys language AbiEvent.name abi.boundEvents,
        entry = (keyed.1, namedEvent language names keyed.1 keyed.2) := by
  have hkeys : ((withKeys language AbiEvent.name abi.boundEvents).map fun keyed =>
      (keyed.1, namedEvent language names keyed.1 keyed.2)).Pairwise fun a b => a.1 ≠ b.1 :=
    List.pairwise_map.mpr (List.pairwise_map.mp (nodup_map_fst_withKeys language _ _))
  rw [namedClassification, Classification.ofBound, TextMap.mem_entries_ofList hkeys, List.mem_map]
  exact exists_congr fun keyed => and_congr_right fun _ => eq_comm

theorem exists_of_mem_events {entry : String × BoundEvent}
    (h : entry ∈ (namedClassification language names customs abi).events.entries) :
    ∃ e, e.tuples ⊆ abi.traversal customs ∧ entry.2 = namedEvent language names entry.1 e := by
  obtain ⟨⟨key, e⟩, hkeyed, rfl⟩ := mem_events_iff.mp h
  refine ⟨e, fun fields hfields => List.mem_append_right _ (List.mem_append_left _ ?_), rfl⟩
  rw [← flatMap_withKeys language AbiEvent.name]
  exact List.mem_flatMap.mpr ⟨(key, e), hkeyed, hfields⟩

/-- The constructor is that of the ABI. -/
theorem exists_of_mem_constructor {method : BoundMethod}
    (h : method ∈ (namedClassification language names customs abi).constructor) :
    ∃ f, f.tuples ⊆ abi.traversal customs ∧ method = namedMethod language names "" f := by
  obtain ⟨f, hf, rfl⟩ := Option.map_eq_some_iff.mp (Option.mem_def.mp h)
  refine ⟨f, fun fields hfields => List.mem_append_right _ (List.mem_append_right _ ?_), rfl⟩
  exact List.mem_flatMap.mpr ⟨f, Option.mem_toList.mpr hf, hfields⟩

end Named

/-! ### Models -/

section Model

variable {binder : Binder} {name : String} {deployment : Deployment} {model : ContractModel}

/-- A model has the structs of the traversal of its ABI, and is classified and declared with their
names. -/
theorem traversal_of_bind {abi : ContractAbi} (habi : deployment.parseAbi = .ok abi)
    (h : binder.bind name deployment = .ok model) :
    ClosedTuples (abi.traversal (binder.config.customsFor name)) ∧
      model.structs = ofTraversal model.language (binder.config.customsFor name).structs
        (abi.traversal (binder.config.customsFor name)) ∧
      model.classification = (namedClassification model.language
        (displayName model.language (binder.config.customsFor name).structs
          (abi.traversal (binder.config.customsFor name)))
        (binder.config.customsFor name) abi).declared model.structs := by
  obtain ⟨parsed, result, structs, hparsed, hrun, hassemble⟩ := Binder.bind_eq_ok_iff.mp h
  obtain rfl := Except.ok.inj (habi.symm.trans hparsed)
  obtain ⟨-, rfl⟩ := Binder.assemble_eq_ok_iff.mp hassemble
  have hregisters := registers_classify binder.config.language
    (binder.config.customsFor name).structs (binder.config.customsFor name) abi
  obtain ⟨hstructs, hresult⟩ := of_yields_classify hrun
  exact ⟨hregisters.closed, hstructs, congrArg (·.declared structs) hresult⟩

theorem exists_traversal_of_bind (h : binder.bind name deployment = .ok model) :
    ∃ abi customs, ClosedTuples (abi.traversal customs) ∧
      model.structs = ofTraversal model.language customs.structs (abi.traversal customs) ∧
      model.classification = (namedClassification model.language
        (displayName model.language customs.structs (abi.traversal customs)) customs abi).declared
          model.structs := by
  obtain ⟨abi, -, -, habi, -⟩ := Binder.bind_eq_ok_iff.mp h
  exact ⟨abi, binder.config.customsFor name, traversal_of_bind habi h⟩

end Model

end ContractBindings
