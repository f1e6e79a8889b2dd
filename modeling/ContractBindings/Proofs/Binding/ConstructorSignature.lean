import ContractBindings.Proofs.Abi.Description
import ContractBindings.Proofs.Binding.Members

/-!
# The signature of the constructor

A constructor is read like a function, its name included, which nothing keeps an entry from having.
So the constructor signature of a model is the list of the input types of the last constructor entry
with the name of that entry in front, if it has one (`constructorSignature_of_bind`). Nothing else
in the entry has an influence on it, and neither have earlier constructor entries.
-/

namespace ContractBindings

/-! ### Lists of types -/

/-- The signature of the tuple of some types, for instance `(string,uint8)`. -/
def typeListSignature (types : List AbiType) : String :=
  (AbiType.tuple (types.map fun type => ("", type))).signature

/-- Of the parameters only the types show in a canonical signature. -/
theorem canonicalSignature_eq (name : String) (parameters : List AbiParameter) :
    canonicalSignature name parameters = name ++ typeListSignature (parameters.map (·.type)) := by
  have hshape : (parameterTuple parameters).shape =
      (AbiType.tuple ((parameters.map (·.type)).map fun type => ("", type))).shape := by
    rw [shape_parameterTuple, AbiType.shape, fieldShapes_eq_map, List.map_map, List.map_map]
    rfl
  rw [canonicalSignature, AbiType.signature_eq_iff.mpr hshape, typeListSignature]

/-! ### Constructor entries -/

namespace Json

/-- Whether an entry is for a constructor. -/
def isConstructor (entry : Json) : Bool :=
  match entry.given? "type" with
  | some (.string kind) => kind == "constructor"
  | _ => false

theorem isConstructor_of_given? {entry : Json} {kind : String}
    (h : entry.given? "type" = some (.string kind)) :
    entry.isConstructor = (kind == "constructor") := by
  rw [isConstructor, h]

/-- What an entry for a constructor describes is one, and no other entry describes one. -/
theorem DescribesEntry.constructor?_rel {item : Json} {entry : AbiEntry}
    (h : item.DescribesEntry entry) :
    Option.Rel (fun item f => item.DescribesEntry (.constructor f))
      (Option.guard isConstructor item) entry.constructor? := by
  have hother : item.isConstructor = false → Option.guard isConstructor item = none := fun hitem =>
    Option.guard_eq_none_iff.mpr hitem
  cases h with
  | constructor hkind hname hempty hfunction =>
    have hitem : Option.guard isConstructor item = some item := by
      rw [Option.guard_eq_some_iff]
      exact ⟨rfl, isConstructor_of_given? hkind⟩
    rw [hitem]
    exact .some (.constructor hkind hname hempty hfunction)
  | function hkind hname hfunction =>
    rw [hother ?_]
    · exact .none
    rcases hkind with hkind | hkind
    · rw [isConstructor, hkind]
    · exact isConstructor_of_given? hkind
  | event hkind =>
    rw [hother (isConstructor_of_given? hkind)]
    exact .none
  | unbound hkind hunbound =>
    rw [hother ?_]
    · exact .none
    rw [isConstructor_of_given? hkind]
    simp only [List.mem_cons, List.not_mem_nil, or_false] at hunbound
    rcases hunbound with rfl | rfl | rfl <;> rfl

end Json

/-- The constructors of an ABI are those that the entries for one describe, in the same order. -/
theorem forall₂_constructors {items : List Json} {entries : List AbiEntry}
    (h : List.Forall₂ Json.DescribesEntry items entries) :
    List.Forall₂ (fun item f => item.DescribesEntry (.constructor f))
      (items.filter Json.isConstructor) (entries.filterMap AbiEntry.constructor?) := by
  rw [← List.filterMap_eq_filter]
  exact List.rel_filterMap (fun _ _ hentry => hentry.constructor?_rel) h

/-- The last one of some entries that is for a constructor. -/
def lastConstructor? (items : List Json) : Option Json := (items.filter Json.isConstructor).getLast?

/-- The constructor of an ABI is what the last entry for one describes. -/
theorem constructor_of_ofJson {value : Json} {abi : ContractAbi}
    (h : ContractAbi.ofJson value = .ok abi) :
    ∃ items, value = .array items ∧
      (lastConstructor? items = none → abi.constructor = none) ∧
      ∀ entry, lastConstructor? items = some entry →
        ∃ f, abi.constructor = some f ∧ entry.DescribesEntry (.constructor f) := by
  obtain ⟨items, entries, hvalue, hentries, rfl⟩ := ContractAbi.ofJson_eq_ok_iff.mp h
  have hconstructors := forall₂_constructors hentries
  exact ⟨items, hvalue, getLast?_eq_none_of_forall₂ hconstructors,
    fun _ hentry => exists_getLast?_of_forall₂ hconstructors hentry⟩

/-! ### Models -/

section Model

variable {binder : Binder} {name : String} {deployment : Deployment} {model : ContractModel}

theorem constructorSignature_eq {abi : ContractAbi} (habi : deployment.parseAbi = .ok abi)
    (h : binder.bind name deployment = .ok model) :
    model.constructorSignature = (abi.constructor.map AbiFunction.signature).getD "()" := by
  obtain ⟨-, -, hresult⟩ := traversal_of_bind habi h
  rw [ContractModel.constructorSignature, hresult, namedClassification, Classification.ofBound]
  cases abi.constructor <;> rfl

/-- A constructor's signature is the list of its input types behind the name of its entry. -/
theorem signature_of_describesEntry {entry : Json} {f : AbiFunction}
    (h : entry.DescribesEntry (.constructor f)) :
    ∃ own inputs, entry.given? "name" = Option.map .string own ∧
      entry.DescribesParameters "inputs" inputs ∧
      f.signature = own.getD "" ++ typeListSignature (inputs.map (·.type)) := by
  cases h with
  | @constructor _ own _ hname hown hfunction =>
    refine ⟨own, f.inputs, hname, hfunction.inputs, ?_⟩
    rw [AbiFunction.signature, canonicalSignature_eq, hown]

/-- The constructor signature of a model is read off the last constructor entry. -/
theorem exists_inputs_of_bind (h : binder.bind name deployment = .ok model) :
    ∃ items, deployment.abi = .array items ∧
      (lastConstructor? items = none → model.constructorSignature = "()") ∧
      ∀ entry, lastConstructor? items = some entry → ∃ own inputs,
        entry.given? "name" = Option.map .string own ∧
        entry.DescribesParameters "inputs" inputs ∧
        model.constructorSignature =
          own.getD "" ++ typeListSignature (inputs.map (·.type)) := by
  obtain ⟨abi, -, -, habi, -⟩ := Binder.bind_eq_ok_iff.mp h
  obtain ⟨items, hitems, hnoEntry, hentries⟩ := constructor_of_ofJson habi
  have hsignature := constructorSignature_eq habi h
  refine ⟨items, hitems, fun hnone => ?_, fun entry hentry => ?_⟩
  · rw [hsignature, hnoEntry hnone]
    rfl
  · obtain ⟨f, hf, hdescribed⟩ := hentries entry hentry
    rw [hsignature, hf]
    exact signature_of_describesEntry hdescribed

/-- **Constructor signature of a model**: without a constructor entry it is `()`. Otherwise it is
the list of the input types of the last such entry, with the name of that entry in front, if there
is one, so that it is the list alone exactly if the entry has no name or the empty one. -/
theorem constructorSignature_of_bind (h : binder.bind name deployment = .ok model) :
    ∃ items, deployment.abi = .array items ∧
      (lastConstructor? items = none → model.constructorSignature = "()") ∧
      ∀ entry, lastConstructor? items = some entry → ∃ own inputs,
        entry.given? "name" = Option.map .string own ∧
        entry.DescribesParameters "inputs" inputs ∧
        model.constructorSignature =
          own.getD "" ++ typeListSignature (inputs.map (·.type)) ∧
        (model.constructorSignature = typeListSignature (inputs.map (·.type)) ↔
          own.getD "" = "") := by
  obtain ⟨items, hitems, hnone, hentries⟩ := exists_inputs_of_bind h
  refine ⟨items, hitems, hnone, fun entry hentry => ?_⟩
  obtain ⟨own, inputs, hname, hinputs, hsignature⟩ := hentries entry hentry
  refine ⟨own, inputs, hname, hinputs, hsignature, ?_⟩
  rw [hsignature]
  exact String.append_eq_right_iff

end Model

/-- An entry for a constructor. -/
private def constructorEntry (name : Json) (inputs : List Json) : Json :=
  .object [("type", .string "constructor"), ("name", name), ("inputs", .array inputs)]

/-- An input with the given name and type, and the components of its type. -/
private def typedInput (name type : String) (components : List Json) : Json :=
  .object [("name", .string name), ("type", .string type), ("components", .array components)]

/-- Two constructors, of which the first one has a name. -/
def repeatedConstructors : Deployment :=
  .ofAbi (.array [constructorEntry (.string "Foo") [typedInput "flag" "bool" []],
    constructorEntry .null [typedInput "rates" "tuple[]" [typedInput "who" "string" [],
      typedInput "rate" "uint8" []], typedInput "" "uint" []]])

theorem constructorSignature_of_bind_repeatedConstructors :
    ∃ (model : ContractModel) (entry : Json) (inputs : List AbiParameter),
      plainBinder.bind "C" repeatedConstructors = .ok model ∧
      entry.given? "name" = none ∧ entry.DescribesParameters "inputs" inputs ∧
      model.constructorSignature = typeListSignature (inputs.map (·.type)) ∧
      model.constructorSignature = "((string,uint8)[],uint256)" := by
  have hbinds : (plainBinder.bind "C" repeatedConstructors).toOption.map
      (·.constructorSignature) = some "((string,uint8)[],uint256)" := by decide +kernel
  obtain ⟨model, hmodel, htext⟩ := Option.map_eq_some_iff.mp hbinds
  have h := except_toOption_eq_some_iff.mp hmodel
  obtain ⟨items, hitems, -, hlast⟩ := constructorSignature_of_bind h
  obtain rfl := Json.array.inj hitems
  obtain ⟨own, inputs, hname, hinputs, -, hiff⟩ := hlast _ rfl
  obtain rfl : own = none := Option.map_eq_none_iff.mp hname.symm
  exact ⟨model, _, inputs, h, rfl, hinputs, hiff.mpr rfl, htext⟩

/-- A constructor with a name. -/
def namedConstructor : Deployment :=
  .ofAbi (.array [constructorEntry (.string "Foo") [typedInput "a" "string" [],
    typedInput "b" "uint8" []]])

/-- The name of a constructor entry shows in the constructor signature. -/
theorem constructorSignature_ne_namedConstructor :
    ∃ (model : ContractModel) (entry : Json) (inputs : List AbiParameter),
      plainBinder.bind "C" namedConstructor = .ok model ∧
      namedConstructor.abi = .array [entry] ∧ entry.isConstructor = true ∧
      entry.DescribesParameters "inputs" inputs ∧
      typeListSignature (inputs.map (·.type)) = "(string,uint8)" ∧
      model.constructorSignature = "Foo(string,uint8)" ∧
      model.constructorSignature ≠ typeListSignature (inputs.map (·.type)) := by
  have hbinds : (plainBinder.bind "C" namedConstructor).toOption.map
      (·.constructorSignature) = some ("Foo" ++ "(string,uint8)") := by decide +kernel
  obtain ⟨model, hmodel, htext⟩ := Option.map_eq_some_iff.mp hbinds
  have h := except_toOption_eq_some_iff.mp hmodel
  obtain ⟨items, hitems, -, hlast⟩ := exists_inputs_of_bind h
  obtain rfl := Json.array.inj hitems
  obtain ⟨own, inputs, hname, hinputs, hsignature⟩ := hlast _ rfl
  obtain ⟨_, rfl, hown⟩ := Option.map_eq_some_iff.mp hname.symm
  cases hown
  have htypes := (String.append_right_inj "Foo").mp (htext.symm.trans hsignature)
  refine ⟨model, _, inputs, h, rfl, rfl, hinputs, htypes.symm, htext, ?_⟩
  rw [htext, ← htypes]
  decide

end ContractBindings
