import ContractBindings.Proofs.Binding.Documents
import ContractBindings.Proofs.Binding.Members

/-!
# Structured outputs

Whether the outputs of a method can be returned as one record is found out by going through the
names that the ABI gives them, with the fields made so far at hand, and stopping at the first name
that makes no field of its own (`nameNewFields`). The names that the outputs have in a model are
made elsewhere. The two agree: in the document of the model, a record is promised exactly where the
outputs that are listed can be its fields (`structuredOutput_iff_of_bind`).
-/

namespace ContractBindings

/-- **Names of fields**: there are at least two, none is empty, and they differ. -/
structure AreFieldNames (names : List String) : Prop where
  /-- A record has two fields at least. -/
  two_le_length : 2 ≤ names.length
  /-- Every field has a name. -/
  empty_notMem : "" ∉ names
  /-- No two fields have the same name. -/
  nodup : names.Nodup

/-! ### Going through the names -/

@[simp]
theorem capitalize_empty : capitalize "" = "" := rfl

/-- Names make fields behind others if their capitalized forms are there, and differ from each other
and from those seen before. -/
theorem nameNewFields_iff {seen names : List String} :
    nameNewFields seen names = true ↔
      "" ∉ names.map capitalize ∧ (names.map capitalize).Nodup ∧
        ∀ field ∈ names.map capitalize, field ∉ seen := by
  -- on the names: those seen are any, since each name adds its field to them
  induction names generalizing seen with
  | nil => simp [nameNewFields]
  | cons name rest ih =>
    rw [List.map_cons, List.nodup_cons, List.forall_mem_cons, List.mem_cons, not_or, nameNewFields]
    by_cases hempty : capitalize name = ""
    · simp [hempty]
    have hname : name ≠ "" := by
      rintro rfl
      exact hempty capitalize_empty
    by_cases hseen : capitalize name ∈ seen
    · simp [hseen]
    simp only [String.isEmpty_iff, hname, hempty, List.contains_eq_mem, hseen, decide_false,
      Bool.or_false, if_false, ih, List.mem_cons, not_or]
    constructor
    · rintro ⟨hrest, hnodup, hnew⟩
      have hnotMem : capitalize name ∉ rest.map capitalize := fun hmem => (hnew _ hmem).1 rfl
      exact ⟨⟨Ne.symm hempty, hrest⟩, ⟨hnotMem, hnodup⟩, not_false, fun field hmem =>
        (hnew field hmem).2⟩
    · rintro ⟨⟨-, hrest⟩, ⟨hnotMem, hnodup⟩, -, hnew⟩
      exact ⟨hrest, hnodup, fun field hmem =>
        ⟨fun heq => hnotMem (heq ▸ hmem), hnew field hmem⟩⟩

theorem namesRecord_iff {names : List String} :
    namesRecord names = true ↔ AreFieldNames (names.map capitalize) := by
  rw [namesRecord]
  by_cases hlength : names.length < 2
  · rw [if_pos hlength]
    refine iff_of_false Bool.false_ne_true fun h => ?_
    have htwo := h.two_le_length
    rw [List.length_map] at htwo
    omega
  · rw [if_neg hlength, nameNewFields_iff]
    constructor
    · rintro ⟨hempty, hnodup, -⟩
      exact ⟨by rw [List.length_map]; omega, hempty, hnodup⟩
    · intro h
      exact ⟨h.empty_notMem, h.nodup, fun _ _ => List.not_mem_nil⟩

/-! ### Models -/

/-- Whether a document promises a record, if it says so. -/
def Json.promisesRecord? (document : Json) : Option Bool := do
  (← document.get? "structured_output").bool?

/-- **Outputs described** by the document of a method: none is left out, and whether they can be
returned as one record is told by their names alone. -/
structure BoundMethod.HasOutputsDescribedIn (method : BoundMethod) (document : Json) : Prop where
  /-- The names of the outputs are made from those in the ABI. -/
  names : method.outputs.map (·.name) = method.function.outputs.map (capitalize ·.name)
  /-- The outputs are listed with these names. -/
  listed : document.textsAt? "outputs" "name" = some (method.outputs.map (·.name))
  /-- A record is promised exactly if the names can be those of its fields. -/
  promise : ∃ promised, document.promisesRecord? = some promised ∧
    (promised = true ↔ AreFieldNames (method.outputs.map (·.name)))

/-- The outputs of a bound method have the names in the ABI, capitalized. -/
theorem map_name_outputs_of_mem_methods {language : Language} {names : String → String}
    {customs : Customs} {abi : ContractAbi} {method : BoundMethod}
    (h : method ∈ (namedClassification language names customs abi).methods) :
    method.outputs.map (·.name) = method.function.outputs.map (capitalize ·.name) := by
  obtain ⟨f, key, -, rfl⟩ := exists_of_mem_methods h
  rw [namedMethod, List.map_map]
  rfl

/-- Outputs whose names are capitalized are described by the document of their method. -/
theorem hasOutputsDescribedIn_toJson {method : BoundMethod}
    (h : method.outputs.map (·.name) = method.function.outputs.map (capitalize ·.name)) :
    method.HasOutputsDescribedIn method.toJson where
  names := h
  listed := method.isShownIn_toJson.outputs.names
  promise := by
    refine ⟨method.function.hasStructuredOutput, rfl, ?_⟩
    rw [AbiFunction.hasStructuredOutput, namesRecord_iff, List.map_map, h]
    rfl

/-- **Structured outputs of a model**: calls and transacts are listed in its document with all their
outputs, and a record is promised exactly if these are at least two, with names that are not empty
and differ. -/
theorem structuredOutput_iff_of_bind {binder : Binder} {name : String} {deployment : Deployment}
    {model : ContractModel} (h : binder.bind name deployment = .ok model) :
    model.toJson.Lists "calls" model.classification.calls BoundMethod.HasOutputsDescribedIn ∧
      model.toJson.Lists "transacts" model.classification.transacts
        BoundMethod.HasOutputsDescribedIn := by
  obtain ⟨abi, customs, -, -, hresult⟩ := exists_traversal_of_bind h
  have hdescribed : ∀ method ∈ model.classification.methods,
      method.HasOutputsDescribedIn method.toJson := by
    rw [hresult, Classification.methods_declared]
    intro declared hdeclared
    obtain ⟨method, hmethod, rfl⟩ := List.mem_map.mp hdeclared
    have hnames := map_name_outputs_of_mem_methods hmethod
    exact hasOutputsDescribedIn_toJson hnames
  constructor
  · refine Json.lists_of_ofMap rfl fun entry hentry => hdescribed entry.2 ?_
    exact List.mem_map_of_mem (List.mem_append_left _ hentry)
  · refine Json.lists_of_ofMap rfl fun entry hentry => hdescribed entry.2 ?_
    exact List.mem_map_of_mem (List.mem_append_right _ hentry)

/-- A function whose outputs have the given names. -/
private def functionWithOutputs (mutability name : String) (outputs : List String) : Json :=
  .object [("type", .string "function"), ("name", .string name),
    ("stateMutability", .string mutability),
    ("outputs", .array (outputs.map fun output =>
      .object [("name", .string output), ("type", .string "uint8")]))]

/-- Outputs whose names differ, do so in case or underscores only, or are missing. -/
def spelledOutputs : Deployment :=
  .ofAbi (.array [functionWithOutputs "view" "a" ["sum", "total_fee"],
    functionWithOutputs "view" "b" ["var", "Var"], functionWithOutputs "view" "c" ["x"],
    functionWithOutputs "payable" "d" ["_x", "x", "y"],
    functionWithOutputs "payable" "e" ["_", "x"],
    functionWithOutputs "payable" "f" ["x2", "x_2", "x_3", "x__3"],
    functionWithOutputs "payable" "g" ["x1", "x2", "x3"]])

/-- The keys of the members of an object, with the outputs that are listed in them and the promise of
a record. -/
def Json.outputsAt? (document : Json) (name : String) :
    Option (List (String × Option (List String) × Option Bool)) :=
  match document.get? name with
  | some (.object members) => some (members.map fun member =>
      (member.1, member.2.textsAt? "outputs" "name", member.2.promisesRecord?))
  | _ => none

theorem structuredOutput_iff_of_bind_spelledOutputs :
    ∃ model, plainBinder.bind "C" spelledOutputs = .ok model ∧
      model.toJson.outputsAt? "calls" =
        some [("a", some ["Sum", "TotalFee"], some true), ("b", some ["Var", "Var"], some false),
          ("c", some ["X"], some false)] ∧
      model.toJson.outputsAt? "transacts" =
        some [("d", some ["X", "X", "Y"], some false), ("e", some ["", "X"], some false),
          ("f", some ["X2", "X2", "X3", "X3"], some false),
          ("g", some ["X1", "X2", "X3"], some true)] ∧
      model.toJson.Lists "calls" model.classification.calls BoundMethod.HasOutputsDescribedIn ∧
      model.toJson.Lists "transacts" model.classification.transacts
        BoundMethod.HasOutputsDescribedIn := by
  have hcalls : (plainBinder.bind "C" spelledOutputs).toOption.bind
      (·.toJson.outputsAt? "calls") =
        some [("a", some ["Sum", "TotalFee"], some true), ("b", some ["Var", "Var"], some false),
          ("c", some ["X"], some false)] := by decide +kernel
  have htransacts : (plainBinder.bind "C" spelledOutputs).toOption.bind
      (·.toJson.outputsAt? "transacts") =
        some [("d", some ["X", "X", "Y"], some false), ("e", some ["", "X"], some false),
          ("f", some ["X2", "X2", "X3", "X3"], some false),
          ("g", some ["X1", "X2", "X3"], some true)] := by decide +kernel
  obtain ⟨model, hmodel, hcalls⟩ := Option.bind_eq_some_iff.mp hcalls
  rw [hmodel, Option.bind_some] at htransacts
  have h := except_toOption_eq_some_iff.mp hmodel
  exact ⟨model, h, hcalls, htransacts, structuredOutput_iff_of_bind h⟩

end ContractBindings
