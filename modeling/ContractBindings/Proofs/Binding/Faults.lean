import ContractBindings.Proofs.Abi.Description
import ContractBindings.Proofs.Binding.Lookup
import ContractBindings.Proofs.Binding.Traversal
import ContractBindings.Proofs.Struct.Faults

/-!
# Faults of binding

A legal ABI is classified without a fault, unless the language has no records and a bound parameter
has a tuple as its innermost type; the first such parameter is at fault
(`failsAs_classify`). The parameters are taken in the order of `ContractAbi.boundParameters`.

For Java this is all there is to say: without tuples there are no structs, so that no display names
can clash (`Binder.bind_java_outcome`).
-/

namespace ContractBindings

open StructRegistry (ofTraversal)

/-! ### Bound parameters -/

/-- The **bound parameters** of an ABI in the order in which they are mapped: those of the bound
functions, inputs before outputs, then those of the bound events and of the constructor. -/
def ContractAbi.boundParameters (abi : ContractAbi) (customs : Customs) : List AbiParameter :=
  (abi.boundFunctions customs).flatMap AbiFunction.parameters ++
    (abi.boundEvents.flatMap AbiEvent.inputs ++
      abi.constructor.toList.flatMap AbiFunction.parameters)

/-- The traversal of an ABI goes through its bound parameters. -/
theorem ContractAbi.traversal_eq_flatMap (abi : ContractAbi) (customs : Customs) :
    abi.traversal customs =
      (abi.boundParameters customs).flatMap fun parameter => parameter.type.tuples := by
  have hfunction : AbiFunction.tuples = fun f =>
      f.parameters.flatMap fun parameter => parameter.type.tuples := by
    funext f
    rw [AbiFunction.parameters, List.flatMap_append]
    rfl
  rw [traversal, boundParameters, List.flatMap_append, List.flatMap_append, List.flatMap_assoc,
    List.flatMap_assoc, List.flatMap_assoc, hfunction]
  rfl

/-- A type has no tuples inside it if its innermost type is none. -/
theorem AbiType.tuples_eq_nil {type : AbiType} (h : type.innermost.isTuple = false) :
    type.tuples = [] := by
  induction type using AbiType.induct with
  | elementary _ => rfl
  | array _ _ ih => exact ih h
  | slice _ ih => exact ih h
  | tuple _ _ => cases h

/-! ### Classification -/

theorem findSome?_flatMap {α β γ : Type} (items : List α) (f : α → List β) (g : β → Option γ) :
    (items.flatMap f).findSome? g = items.findSome? fun item => (f item).findSome? g := by
  induction items with
  | nil => rfl
  | cons item rest ih =>
    rw [List.flatMap_cons, List.findSome?_append, ih, List.findSome?_cons]
    cases (f item).findSome? g <;> rfl

section Classification

variable {language : Language}

/-- The fault in the first of some parameters whose type has one. -/
def Language.parameterFault? (language : Language) (parameters : List AbiParameter) :
    Option BindError :=
  parameters.findSome? fun parameter => language.tupleFault? parameter.type

theorem failsAs_bindInput {parameter : AbiParameter} (h : parameter.type.IsLegal) (place : Nat) :
    FailsAs (bindInput language parameter place) (language.tupleFault? parameter.type) := by
  rw [bindInput]
  split
  · exact (failsAs_mapTopicType h).map (BoundArgument.mk _ _ · _)
  · exact (failsAs_mapType h).map (BoundArgument.mk _ _ · _)

theorem failsAs_bindInputs {parameters : List AbiParameter}
    (h : ∀ parameter ∈ parameters, parameter.type.IsLegal) :
    FailsAs (bindInputs language parameters) (language.parameterFault? parameters) := by
  have hplaced : language.parameterFault? parameters =
      parameters.zipIdx.findSome? fun item => language.tupleFault? item.1.type := by
    rw [Language.parameterFault?]
    nth_rewrite 1 [← List.zipIdx_map_fst 0 parameters]
    rw [List.findSome?_map]
    rfl
  rw [hplaced]
  exact .mapM fun item hitem => failsAs_bindInput (h _ (List.fst_mem_of_mem_zipIdx hitem)) item.2

/-- **Binding a function** fails for the first of its parameters with a fault. -/
theorem failsAs_bindMethod {f : AbiFunction}
    (h : ∀ parameter ∈ f.parameters, parameter.type.IsLegal) (key : String) :
    FailsAs (bindMethod language key f) (language.parameterFault? f.parameters) := by
  obtain ⟨hinputs, houtputs⟩ := List.forall_mem_append.mp h
  have hbound : FailsAs (f.outputs.mapM (bindOutput language))
      (language.parameterFault? f.outputs) :=
    .mapM fun parameter hparameter => (failsAs_mapType (houtputs parameter hparameter)).map
      (BoundArgument.mk (capitalize parameter.name) parameter.type · false)
  rw [AbiFunction.parameters, Language.parameterFault?, List.findSome?_append]
  exact (failsAs_bindInputs hinputs).bind fun inputs =>
    hbound.map (BoundMethod.mk f (language.methodName key) inputs · "")

theorem failsAs_bindEvent {e : AbiEvent} (h : ∀ parameter ∈ e.inputs, parameter.type.IsLegal)
    (key : String) :
    FailsAs (bindEvent language key e) (language.parameterFault? e.inputs) :=
  (failsAs_bindInputs h).map (BoundEvent.mk e (language.methodName key) · "")

/-- Entries that are bound under their keys fail as they do without them. -/
theorem failsAs_mapM_withKeys {α β : Type} (name : α → String) {entries : List α}
    {bound : String → α → Resolve β} {parameters : α → List AbiParameter}
    (h : ∀ entry ∈ entries, ∀ key,
      FailsAs (bound key entry) (language.parameterFault? (parameters entry))) :
    FailsAs ((withKeys language name entries).mapM fun (key, entry) =>
        return (key, ← bound key entry))
      (language.parameterFault? (entries.flatMap parameters)) := by
  have hkeyed : language.parameterFault? (entries.flatMap parameters) =
      (withKeys language name entries).findSome? fun keyed =>
        language.parameterFault? (parameters keyed.2) := by
    rw [Language.parameterFault?, findSome?_flatMap]
    nth_rewrite 1 [← map_snd_withKeys language name entries]
    rw [List.findSome?_map]
    rfl
  rw [hkeyed]
  refine .mapM fun (key, entry) hkeyed => (h entry ?_ key).map (key, ·)
  rw [← map_snd_withKeys language name entries]
  exact List.mem_map_of_mem hkeyed

/-- **Classifying a legal ABI** fails for the first of its bound parameters with a fault. -/
theorem failsAs_classify {abi : ContractAbi} (h : abi.IsLegal) (customs : Customs) :
    FailsAs (classify language customs abi)
      (language.parameterFault? (abi.boundParameters customs)) := by
  have hmethods : FailsAs _
      (language.parameterFault? ((abi.boundFunctions customs).flatMap AbiFunction.parameters)) :=
    failsAs_mapM_withKeys AbiFunction.name fun f hf =>
      failsAs_bindMethod (h.functions f (List.mem_filter.mp hf).1)
  have hevents : FailsAs _
      (language.parameterFault? (abi.boundEvents.flatMap AbiEvent.inputs)) :=
    failsAs_mapM_withKeys AbiEvent.name fun e he =>
      failsAs_bindEvent (h.events e (List.mem_filter.mp he).1)
  have hconstructor : FailsAs (abi.constructor.mapM (bindMethod language "")) _ :=
    .optionMapM fun f hf => failsAs_bindMethod (h.constructor f hf) ""
  have hoption : abi.constructor.bind (fun f => language.parameterFault? f.parameters) =
      language.parameterFault? (abi.constructor.toList.flatMap AbiFunction.parameters) := by
    cases abi.constructor <;> simp [Language.parameterFault?]
  rw [hoption] at hconstructor
  rw [ContractAbi.boundParameters, Language.parameterFault?, List.findSome?_append,
    List.findSome?_append]
  exact hmethods.bind fun methods => hevents.bind fun events =>
    hconstructor.map (Classification.ofBound methods events)

end Classification

/-! ### Languages without records -/

section WithoutRecords

variable {language : Language} {parameters : List AbiParameter}

theorem Language.parameterFault?_eq_none_iff (h : language.hasRecords = false) :
    language.parameterFault? parameters = none ↔
      ∀ parameter ∈ parameters, parameter.type.innermost.isTuple = false := by
  rw [parameterFault?, List.findSome?_eq_none_iff]
  exact forall₂_congr fun _ _ => tupleFault?_eq_none_iff h

/-- The fault is that of the first parameter with a tuple. -/
theorem Language.parameterFault?_eq_some_iff (h : language.hasRecords = false)
    {fault : BindError} :
    language.parameterFault? parameters = some fault ↔
      ∃ before parameter after, parameters = before ++ parameter :: after ∧
        (∀ earlier ∈ before, earlier.type.innermost.isTuple = false) ∧
        parameter.type.innermost.isTuple = true ∧
        fault = .unsupportedTuple language parameter.type.innermost.signature := by
  rw [parameterFault?, List.findSome?_eq_some_iff]
  simp only [tupleFault?_eq_some_iff h, tupleFault?_eq_none_iff h]
  exact exists_congr fun before => exists₂_congr fun parameter after =>
    and_congr_right fun _ => and_comm

end WithoutRecords

namespace Binder

variable {binder : Binder} {name : String} {deployment : Deployment} {abi : ContractAbi}

/-- The **registry of a contract**: that of the traversal of its ABI. -/
def registryOf (binder : Binder) (name : String) (abi : ContractAbi) : StructRegistry :=
  ofTraversal binder.config.language (binder.config.customsFor name).structs
    (abi.traversal (binder.config.customsFor name))

/-- A model is assembled from what classification gives and the registry that it leaves. -/
theorem bind_eq (habi : deployment.parseAbi = .ok abi) :
    binder.bind name deployment =
      let run := (classify binder.config.language (binder.config.customsFor name) abi).outcome
        (.withOverrides (binder.config.customsFor name).structs)
      run.1 >>= fun result => binder.assemble name deployment result run.2 := by
  rw [Binder.bind, habi]
  rfl

/-- Binding fails if a bound parameter has a fault, or else if two structs have the same name. -/
theorem faultOf?_bind (habi : deployment.parseAbi = .ok abi) :
    faultOf? (binder.bind name deployment) =
      (binder.config.language.parameterFault?
        (abi.boundParameters (binder.config.customsFor name))).or
        (faultOf? (binder.registryOf name abi).checkNames) := by
  have hfails : FailsAs (classify binder.config.language (binder.config.customsFor name) abi) _ :=
    failsAs_classify (ContractAbi.isLegal_of_ofJson habi) (binder.config.customsFor name)
  have hfault := hfails (.withOverrides (binder.config.customsFor name).structs)
  rw [bind_eq habi]
  dsimp only
  rcases hrun : (classify binder.config.language (binder.config.customsFor name) abi).outcome
    (.withOverrides (binder.config.customsFor name).structs) with ⟨fault | result, registry⟩
  · rw [hrun] at hfault
    rw [← hfault]
    rfl
  · rw [hrun] at hfault
    rw [← hfault, registryOf, ← (of_yields_classify hrun).1]
    change faultOf? (binder.assemble name deployment result registry) = _
    rw [assemble]
    cases registry.checkNames <;> rfl

/-- A model has the structs of the registry of its contract. -/
theorem structs_of_bind {model : ContractModel} (habi : deployment.parseAbi = .ok abi)
    (h : binder.bind name deployment = .ok model) :
    model.structs = binder.registryOf name abi := by
  obtain ⟨parsed, result, structs, hparsed, hrun, hassemble⟩ := bind_eq_ok_iff.mp h
  obtain rfl := Except.ok.inj (habi.symm.trans hparsed)
  obtain ⟨-, rfl⟩ := assemble_eq_ok_iff.mp hassemble
  exact (of_yields_classify hrun).1

/-- Where no bound parameter has a tuple inside its arrays and slices, there are no structs. -/
theorem structs_registryOf_eq_nil
    (h : ∀ parameter ∈ abi.boundParameters (binder.config.customsFor name),
      parameter.type.innermost.isTuple = false) : (binder.registryOf name abi).structs = [] := by
  have htuples : abi.traversal (binder.config.customsFor name) = [] := by
    rw [ContractAbi.traversal_eq_flatMap, List.flatMap_eq_nil_iff]
    exact fun parameter hparameter => AbiType.tuples_eq_nil (h parameter hparameter)
  rw [registryOf, htuples]
  rfl

/-- In a language without records no names can clash. -/
theorem faultOf?_bind_of_not_hasRecords (hrecords : binder.config.language.hasRecords = false)
    (habi : deployment.parseAbi = .ok abi) :
    faultOf? (binder.bind name deployment) = binder.config.language.parameterFault?
      (abi.boundParameters (binder.config.customsFor name)) := by
  rw [faultOf?_bind habi]
  cases hparameter : binder.config.language.parameterFault?
      (abi.boundParameters (binder.config.customsFor name)) with
  | some fault => rfl
  | none =>
    rw [Language.parameterFault?_eq_none_iff hrecords] at hparameter
    rw [StructRegistry.checkNames, structs_registryOf_eq_nil hparameter]
    rfl

/-- **Binding for Java**: the first bound parameter with a tuple inside its arrays and slices is
reported, and there are no other faults. Parameters that are not bound do not matter. Without such
a parameter there are no structs. -/
theorem bind_java_outcome (hlanguage : binder.config.language = .java)
    (habi : deployment.parseAbi = .ok abi) :
    ((∃ model, binder.bind name deployment = .ok model) ↔
      ∀ parameter ∈ abi.boundParameters (binder.config.customsFor name),
        parameter.type.innermost.isTuple = false) ∧
    (∀ model, binder.bind name deployment = .ok model → model.structs.structs = []) ∧
    ∀ fault, binder.bind name deployment = .error fault ↔
      ∃ before parameter after,
        abi.boundParameters (binder.config.customsFor name) = before ++ parameter :: after ∧
        (∀ earlier ∈ before, earlier.type.innermost.isTuple = false) ∧
        parameter.type.innermost.isTuple = true ∧
        fault = .unsupportedTuple .java parameter.type.innermost.signature := by
  have hrecords : binder.config.language.hasRecords = false := by rw [hlanguage]; rfl
  have hfault : faultOf? (binder.bind name deployment) = _ :=
    faultOf?_bind_of_not_hasRecords hrecords habi
  have hok : (∃ model, binder.bind name deployment = .ok model) ↔
      ∀ parameter ∈ abi.boundParameters (binder.config.customsFor name),
        parameter.type.innermost.isTuple = false := by
    rw [← faultOf?_eq_none_iff, hfault, Language.parameterFault?_eq_none_iff hrecords]
  refine ⟨hok, fun model hmodel => ?_, fun fault => ?_⟩
  · rw [structs_of_bind habi hmodel]
    exact structs_registryOf_eq_nil (hok.mp ⟨model, hmodel⟩)
  · rw [← faultOf?_eq_some_iff, hfault, Language.parameterFault?_eq_some_iff hrecords, hlanguage]

end Binder

/-- An entry whose only input has the given type, with the components of a tuple. -/
private def entryWithInput (kind name type : String) (components : List Json)
    (more : List (String × Json)) : Json :=
  .object ([("type", .string kind), ("name", .string name),
    ("inputs", .array [.object [("type", .string type), ("components", .array components)]])] ++
    more)

/-- The component of a tuple with the given type. -/
private def component (type : String) : Json := .object [("type", .string type)]

/-- Tuples in a function that is left out, in an anonymous event, inside the arrays of an event
and in the constructor. -/
def tuplesAnywhere : Deployment :=
  .ofAbi (.array [
    entryWithInput "constructor" "" "tuple" [component "bool"] [],
    entryWithInput "function" "skipped" "tuple" [component "address"] [],
    entryWithInput "function" "kept" "uint8[]" [] [],
    entryWithInput "event" "Hidden" "tuple" [component "string"] [("anonymous", .bool true)],
    entryWithInput "event" "Logged" "tuple[2][]" [component "bytes"] []])

/-- The binder for Java that leaves out all functions but one. -/
def keptBinder : Binder :=
  ⟨⟨.java, .ethereum, .ofList [("C", ⟨.empty, .ofList [("kept", true)], .empty⟩)]⟩, rfl⟩

theorem Binder.bind_java_outcome_tuplesAnywhere :
    ∃ abi, tuplesAnywhere.parseAbi = .ok abi ∧ keptBinder.config.language = .java ∧
      keptBinder.bind "C" tuplesAnywhere = .error (.unsupportedTuple .java "(bytes)") := by
  have hbound : (tuplesAnywhere.parseAbi.toOption.map fun abi =>
      (abi.boundParameters (keptBinder.config.customsFor "C")).map fun parameter =>
        (parameter.type.innermost.isTuple, parameter.type.innermost.signature)) =
      some [(false, "uint8"), (true, "(bytes)"), (true, "(bool)")] := by
    decide +kernel
  obtain ⟨abi, habi, hbound⟩ := Option.map_eq_some_iff.mp hbound
  rw [except_toOption_eq_some_iff] at habi
  obtain ⟨first, _, hparameters, hfirst, hrest⟩ := List.map_eq_cons_iff.mp hbound
  obtain ⟨second, rest, rfl, hsecond, -⟩ := List.map_eq_cons_iff.mp hrest
  obtain ⟨htuple, hsignature⟩ := Prod.mk.inj hsecond
  refine ⟨abi, habi, rfl, ((Binder.bind_java_outcome rfl habi).2.2 _).mpr ?_⟩
  refine ⟨[first], second, rest, hparameters, ?_, htuple, by rw [hsignature]⟩
  exact List.forall_mem_singleton.mpr (Prod.mk.inj hfirst).1

end ContractBindings
