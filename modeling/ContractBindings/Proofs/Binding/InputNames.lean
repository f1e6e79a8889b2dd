import ContractBindings.Proofs.Binding.Members
import Mathlib.Data.List.Nodup

/-!
# The names of inputs

An input without a name is called after its place. Nothing keeps another input from having that very
name, so that two inputs of a method may be called the same. `nodup_inputNames_iff` says when the
names of a list of inputs differ: where the names that are there differ, and none of them is the
numbered name of an input without one. `nodup_inputNames_of_bind` says so for all methods and events
of a model and for its constructor.
-/

namespace ContractBindings

/-! ### Lists of parameters -/

/-- The names of those parameters that have one. -/
def ownNames (parameters : List AbiParameter) : List String :=
  (parameters.map (·.name)).filter (· ≠ "")

/-- **Free numbers**: where a parameter has no name, no parameter has the numbered name of that
place. -/
def NumbersFree (parameters : List AbiParameter) : Prop :=
  ∀ (place : Nat) (h : place < parameters.length), parameters[place].name = "" →
    "arg" ++ toString place ∉ parameters.map (·.name)

/-- The names that the inputs for some parameters get. -/
def inputNames (parameters : List AbiParameter) : List String :=
  parameters.mapIdx fun place parameter => inputName parameter place

theorem inputName_of_named {parameter : AbiParameter} (h : parameter.name ≠ "") (place : Nat) :
    inputName parameter place = parameter.name :=
  if_neg (by simpa using h)

theorem inputName_of_unnamed {parameter : AbiParameter} (h : parameter.name = "") (place : Nat) :
    inputName parameter place = "arg" ++ toString place :=
  if_pos (by simpa using h)

theorem numberedInput_ne_empty (place : Nat) : "arg" ++ toString place ≠ "" := fun h =>
  absurd (String.append_eq_empty_iff.mp h).1 (by decide)

/-- Every input has a name. -/
theorem inputName_ne_empty (parameter : AbiParameter) (place : Nat) :
    inputName parameter place ≠ "" := by
  by_cases h : parameter.name = ""
  · rw [inputName_of_unnamed h]
    exact numberedInput_ne_empty place
  · rwa [inputName_of_named h]

theorem nodup_ownNames_iff {parameters : List AbiParameter} :
    (ownNames parameters).Nodup ↔ ∀ (i j : Nat) (hi : i < parameters.length)
      (hj : j < parameters.length), parameters[i].name ≠ "" →
        parameters[i].name = parameters[j].name → i = j := by
  rw [ownNames, List.Nodup, List.pairwise_filter, List.pairwise_map, List.pairwise_iff_getElem]
  simp only [decide_eq_true_eq]
  constructor
  · intro h i j hi hj hnamed heq
    rcases Nat.lt_trichotomy i j with hlt | rfl | hlt
    · exact absurd heq (h i j hi hj hlt hnamed (heq ▸ hnamed))
    · rfl
    · exact absurd heq.symm (h j i hj hi hlt (heq ▸ hnamed) hnamed)
  · intro h i j hi hj hlt hnamed _ heq
    exact absurd (h i j hi hj hnamed heq) (Nat.ne_of_lt hlt)

theorem nodup_inputNames_iff_forall {parameters : List AbiParameter} :
    (inputNames parameters).Nodup ↔ ∀ (i j : Nat) (hi : i < parameters.length)
      (hj : j < parameters.length),
        inputName parameters[i] i = inputName parameters[j] j → i = j := by
  rw [List.nodup_iff_injective_getElem]
  simp only [inputNames, Function.Injective, List.getElem_mapIdx, Fin.forall_iff, Fin.mk.injEq,
    List.length_mapIdx]
  exact ⟨fun h i j hi hj => h i hi j hj, fun h i hi j hj => h i j hi hj⟩

/-- **Different names**: the names of some inputs differ exactly if the names that parameters have
differ and no number is taken. -/
theorem nodup_inputNames_iff (parameters : List AbiParameter) :
    (inputNames parameters).Nodup ↔ (ownNames parameters).Nodup ∧ NumbersFree parameters := by
  rw [nodup_inputNames_iff_forall, nodup_ownNames_iff]
  constructor
  · intro h
    refine ⟨fun i j hi hj hnamed heq => h i j hi hj ?_, fun place hplace hunnamed htaken => ?_⟩
    · rw [inputName_of_named hnamed, inputName_of_named (heq ▸ hnamed), heq]
    · obtain ⟨j, hj, hname⟩ := List.getElem_of_mem htaken
      rw [List.getElem_map] at hname
      rw [List.length_map] at hj
      have hnamed : parameters[j].name ≠ "" := hname ▸ numberedInput_ne_empty place
      -- the numbered input and the one that has its name are not the same
      obtain rfl := h place j hplace hj <| by
        rw [inputName_of_unnamed hunnamed, inputName_of_named hnamed, hname]
      exact hnamed hunnamed
  · rintro ⟨hown, hfree⟩ i j hi hj heq
    have htaken : ∀ (place other : Nat) (hplace : place < parameters.length)
        (hother : other < parameters.length), parameters[place].name = "" →
        parameters[other].name ≠ "arg" ++ toString place := by
      intro place other hplace hother hunnamed h
      exact hfree place hplace hunnamed (h ▸ List.mem_map_of_mem (List.getElem_mem hother))
    by_cases hi' : parameters[i].name = "" <;> by_cases hj' : parameters[j].name = ""
    · rw [inputName_of_unnamed hi', inputName_of_unnamed hj'] at heq
      exact append_toString_injective "arg" heq
    · rw [inputName_of_unnamed hi', inputName_of_named hj'] at heq
      exact absurd heq.symm (htaken i j hi hj hi')
    · rw [inputName_of_named hi', inputName_of_unnamed hj'] at heq
      exact absurd heq (htaken j i hj hi hj')
    · rw [inputName_of_named hi', inputName_of_named hj'] at heq
      exact hown i j hi hj hi' heq

/-! ### Models -/

/-- **Input lists** of a classification: the parameters that each method and event and the
constructor take, and the bound inputs for them. -/
def Classification.inputLists (result : Classification) :
    List (List AbiParameter × List BoundArgument) :=
  result.methods.map (fun method => (method.function.inputs, method.inputs)) ++
    (result.events.entries.map (fun entry => (entry.2.event.inputs, entry.2.inputs)) ++
      result.constructor.toList.map fun method => (method.function.inputs, method.inputs))

/-- Declarations are not part of the inputs. -/
theorem Classification.inputLists_declared (structs : StructRegistry) (result : Classification) :
    (result.declared structs).inputLists = result.inputLists := by
  have hevents : (result.declared structs).events.entries.map
      (fun entry => (entry.2.event.inputs, entry.2.inputs)) =
        result.events.entries.map fun entry => (entry.2.event.inputs, entry.2.inputs) :=
    List.map_map
  have hconstructor : (result.declared structs).constructor.toList.map
      (fun method => (method.function.inputs, method.inputs)) =
        result.constructor.toList.map fun method => (method.function.inputs, method.inputs) := by
    rw [declared]
    cases result.constructor <;> rfl
  rw [inputLists, inputLists, methods_declared, List.map_map, hevents, hconstructor]
  rfl

theorem map_name_namedInputs (language : Language) (names : String → String)
    (parameters : List AbiParameter) :
    (namedInputs language names parameters).map (·.name) = inputNames parameters := by
  rw [namedInputs, inputNames, List.mapIdx_eq_zipIdx_map, List.mapIdx_eq_zipIdx_map, List.map_map]
  rfl

/-- In a classification for given display names, inputs are named after their parameters. -/
theorem map_name_of_mem_inputLists {language : Language} {names : String → String}
    {customs : Customs} {abi : ContractAbi} {inputs : List AbiParameter × List BoundArgument}
    (h : inputs ∈ (namedClassification language names customs abi).inputLists) :
    inputs.2.map (·.name) = inputNames inputs.1 := by
  rcases List.mem_append.mp h with hmethods | hothers
  · obtain ⟨_, hmethod, rfl⟩ := List.mem_map.mp hmethods
    obtain ⟨f, key, -, rfl⟩ := exists_of_mem_methods hmethod
    exact map_name_namedInputs language names f.inputs
  rcases List.mem_append.mp hothers with hevents | hconstructor
  · obtain ⟨_, hevent, rfl⟩ := List.mem_map.mp hevents
    obtain ⟨e, -, heq⟩ := exists_of_mem_events hevent
    rw [heq]
    exact map_name_namedInputs language names e.inputs
  · obtain ⟨_, hmethod, rfl⟩ := List.mem_map.mp hconstructor
    obtain ⟨f, -, rfl⟩ := exists_of_mem_constructor (Option.mem_toList.mp hmethod)
    exact map_name_namedInputs language names f.inputs

/-- **Names of inputs in a model**: all inputs of a method or event or of the constructor have a
name, and these names differ exactly if the names that the parameters have differ and no number is
taken. -/
theorem nodup_inputNames_of_bind {binder : Binder} {name : String} {deployment : Deployment}
    {model : ContractModel} (h : binder.bind name deployment = .ok model) :
    ∀ inputs ∈ model.classification.inputLists, "" ∉ inputs.2.map (·.name) ∧
      ((inputs.2.map (·.name)).Nodup ↔ (ownNames inputs.1).Nodup ∧ NumbersFree inputs.1) := by
  intro inputs hinputs
  obtain ⟨abi, customs, -, -, hresult⟩ := exists_traversal_of_bind h
  rw [hresult, Classification.inputLists_declared] at hinputs
  rw [map_name_of_mem_inputLists hinputs]
  refine ⟨fun hempty => ?_, nodup_inputNames_iff inputs.1⟩
  obtain ⟨place, hplace, hname⟩ := List.mem_mapIdx.mp hempty
  exact inputName_ne_empty _ place hname

/-- An entry whose inputs have the given names. -/
private def entryWithInputs (kind : String) (names : List String) : Json :=
  .object [("type", .string kind), ("name", .string "e"),
    ("inputs", .array (names.map fun name =>
      .object [("name", .string name), ("type", .string "uint8")]))]

/-- Inputs with and without a name, and one with the number of a place where another one stands. -/
def mixedInputs : Deployment :=
  .ofAbi (.array [entryWithInputs "function" ["to", "", "arg0"],
    entryWithInputs "event" ["", ""], entryWithInputs "constructor" ["", "owner"]])

theorem nodup_inputNames_of_bind_mixedInputs :
    ∃ model, plainBinder.bind "C" mixedInputs = .ok model ∧
      model.classification.inputLists.map (·.2.map (·.name)) =
        [["to", "arg1", "arg0"], ["arg0", "arg1"], ["arg0", "owner"]] ∧
      ∀ inputs ∈ model.classification.inputLists, "" ∉ inputs.2.map (·.name) ∧
        ((inputs.2.map (·.name)).Nodup ↔ (ownNames inputs.1).Nodup ∧ NumbersFree inputs.1) := by
  have hbinds : (plainBinder.bind "C" mixedInputs).toOption.map
      (·.classification.inputLists.map (·.2.map (·.name))) =
        some [["to", "arg1", "arg0"], ["arg0", "arg1"], ["arg0", "owner"]] := by decide +kernel
  obtain ⟨model, hmodel, hnames⟩ := Option.map_eq_some_iff.mp hbinds
  have h := except_toOption_eq_some_iff.mp hmodel
  exact ⟨model, h, hnames, nodup_inputNames_of_bind h⟩

/-- A method whose first input has the number of the second one. -/
def takenNumber : Deployment := .ofAbi (.array [entryWithInputs "function" ["arg1", ""]])

/-- Inputs may have the same name although the names that the parameters have differ. -/
theorem not_nodup_inputNames_takenNumber :
    ∃ model inputs, plainBinder.bind "C" takenNumber = .ok model ∧
      inputs ∈ model.classification.inputLists ∧ (ownNames inputs.1).Nodup ∧
      inputs.2.map (·.name) = ["arg1", "arg1"] ∧ ¬(inputs.2.map (·.name)).Nodup := by
  have hbinds : (plainBinder.bind "C" takenNumber).toOption.map (fun model =>
      model.classification.inputLists.map fun inputs =>
        (ownNames inputs.1, inputs.2.map (·.name))) = some [(["arg1"], ["arg1", "arg1"])] := by
    decide +kernel
  obtain ⟨model, hmodel, hlists⟩ := Option.map_eq_some_iff.mp hbinds
  obtain ⟨inputs, hinputs, hfacts⟩ :=
    List.mem_map.mp (hlists ▸ List.mem_singleton_self (["arg1"], ["arg1", "arg1"]))
  obtain ⟨hown, hnames⟩ := Prod.mk.inj hfacts
  refine ⟨model, inputs, except_toOption_eq_some_iff.mp hmodel, hinputs, ?_, hnames, ?_⟩
  · rw [hown]
    exact List.nodup_singleton _
  · rw [hnames]
    decide

end ContractBindings
