import ContractBindings.Proofs.Binding.Members
import ContractBindings.Proofs.Naming.Identifiers
import ContractBindings.Proofs.Struct.Records

/-!
# The identifiers of a model

Where the names of an ABI are identifiers, those of a model are plain identifiers with few
exceptions, which `namesPlainly_of_bind` lists: the name of a method or event is not plain
exactly if no letter leads its own name, and that of a field exactly if a digit leads its own name
and no earlier field has the name made from it.
-/

namespace ContractBindings

open StructRegistry (ofTraversal)

/-! ### Keys and fields -/

/-- Every entry of a namespace has its rightful key behind some others. -/
theorem exists_isRightfulKey_of_mem_withKeys {α : Type} {language : Language} {name : α → String}
    {entries : List α} {keyed : String × α} (h : keyed ∈ withKeys language name entries) :
    ∃ earlier, language.IsRightfulKey earlier (name keyed.2) keyed.1 := by
  obtain ⟨place, hplace⟩ := List.mem_iff_getElem?.mp h
  rw [withKeys, List.getElem?_zip_eq_some] at hplace
  obtain ⟨hkey, hentry⟩ := hplace
  have hname : (entries.map name)[place]? = some (name keyed.2) := by
    rw [List.getElem?_map, hentry, Option.map_some]
  exact ⟨_, language.isRightfulKey_claimKeys hname hkey⟩

/-- **Fields for components**: each has its own name, the name of the component, and is plain except
where a digit leads that name and no earlier field has the name made from it. -/
structure PlainUnlessDigitLed (language : Language) (raws names : List String) : Prop where
  /-- There is a field for every component. -/
  length_eq : raws.length = names.length
  /-- The only exception. -/
  plain_iff : ∀ (place : Nat) (raw name : String), raws[place]? = some raw →
    names[place]? = some name → raw = "" ∨ isIdentifier raw = true →
      (isPlainIdentifier name = true ↔
        isDigitLed raw = false ∨ language.fieldName raw ∈ names.take place)

theorem plainUnlessDigitLed_fieldNames (language : Language) (raws : List String) :
    PlainUnlessDigitLed language raws (language.fieldNames raws) where
  length_eq := (language.length_fieldNames raws).symm
  plain_iff := by
    intro place raw name hraw hname hidentifier
    have hword : IsWordText raw.toList := by
      rcases hidentifier with rfl | hidentifier
      · exact fun _ hc => nomatch hc
      · exact isWordText_of_isIdentifier hidentifier
    rw [Language.fieldNames, language.getElem?_fieldNamesAfter, hraw, Option.map_some,
      Option.some.injEq, List.nil_append] at hname
    rw [← hname]
    exact language.isPlainIdentifier_freshField hword

/-! ### Models -/

/-- **Plain names** of a model whose structs stand for the given tuples: the name of a method or
event whose own name is an identifier is plain exactly if a letter leads that, with a number behind
it or not, and fields are plain unless a digit leads the name of the component. -/
structure ContractModel.NamesPlainly (model : ContractModel) (tuples : List TupleFields) :
    Prop where
  /-- Methods, with and without a number. -/
  methods : ∀ method ∈ model.classification.methods, isIdentifier method.function.name = true →
    (isPlainIdentifier method.normalizedName = true ↔ isLetterLed method.function.name = true)
  /-- Events, with and without a number. -/
  events : ∀ entry ∈ model.classification.events.entries,
    isIdentifier entry.2.event.name = true →
      (isPlainIdentifier entry.2.normalizedName = true ↔ isLetterLed entry.2.event.name = true)
  /-- The fields of all structs. -/
  structs : ∀ struct ∈ model.structs.structs, ∃ fields ∈ tuples,
    struct.signature = tupleSignature fields ∧
      PlainUnlessDigitLed model.language (fields.map (·.1)) (struct.fields.map (·.name))

/-- **Identifiers of a model**: it names methods, events and fields plainly, and its structs are
made from tuples of the ABI. -/
theorem namesPlainly_of_bind {binder : Binder} {name : String} {deployment : Deployment}
    {abi : ContractAbi} {model : ContractModel} (habi : deployment.parseAbi = .ok abi)
    (h : binder.bind name deployment = .ok model) :
    model.NamesPlainly (abi.traversal (binder.config.customsFor name)) := by
  obtain ⟨-, hstructs, hresult⟩ := traversal_of_bind habi h
  refine ⟨fun method hmethod hname => ?_, fun entry hentry hname => ?_, fun struct hstruct => ?_⟩
  · rw [hresult, Classification.methods_declared] at hmethod
    obtain ⟨_, hbound, rfl⟩ := List.mem_map.mp hmethod
    obtain ⟨keyed, hkeyed, rfl⟩ := mem_methods_iff.mp hbound
    obtain ⟨earlier, hkey⟩ := exists_isRightfulKey_of_mem_withKeys hkeyed
    exact Bool.eq_iff_iff.mp <|
      model.language.isPlainIdentifier_methodName (isWordText_of_isIdentifier hname) hkey
  · rw [hresult] at hentry
    obtain ⟨_, hbound, rfl⟩ := List.mem_map.mp hentry
    obtain ⟨keyed, hkeyed, rfl⟩ := mem_events_iff.mp hbound
    obtain ⟨earlier, hkey⟩ := exists_isRightfulKey_of_mem_withKeys hkeyed
    exact Bool.eq_iff_iff.mp <|
      model.language.isPlainIdentifier_methodName (isWordText_of_isIdentifier hname) hkey
  · rw [hstructs, StructRegistry.structs_ofTraversal, List.mem_mapIdx] at hstruct
    obtain ⟨place, hplace, rfl⟩ := hstruct
    refine ⟨_, firstTuples_subset _ (List.getElem_mem hplace), rfl, ?_⟩
    rw [placedStruct, map_name_structFields _ (List.length_map _)]
    exact plainUnlessDigitLed_fieldNames _ _

/-- An entry with a single input, a tuple whose components have the given names. -/
private def entryWithComponents (kind name : String) (components : List String) : Json :=
  .object [("type", .string kind), ("name", .string name),
    ("inputs", .array [.object [("name", .string "x"), ("type", .string "tuple"),
      ("components", .array (components.map fun component =>
        .object [("name", .string component), ("type", .string "uint8")]))]])]

/-- Names with underscores in front and inside, some of which clash. -/
def underscoredNames : Deployment :=
  .ofAbi (.array [entryWithComponents "function" "__x_y" ["", "_1", "_1", "a_b"],
    entryWithComponents "function" "x_Y" ["_", "_c"], entryWithComponents "event" "_e" []])

theorem namesPlainly_of_bind_underscoredNames :
    ∃ abi model, underscoredNames.parseAbi = .ok abi ∧
      plainBinder.bind "C" underscoredNames = .ok model ∧
      model.classification.methods.map (·.normalizedName) = ["XY", "XY0"] ∧
      model.structs.structs.map (·.fields.map (·.name)) =
        [["Field0", "1", "Field2", "AB"], ["Field0", "C"], []] ∧
      model.NamesPlainly (abi.traversal .empty) := by
  have hbinds : (plainBinder.bind "C" underscoredNames).toOption.map (fun model =>
      (model.classification.methods.map (·.normalizedName),
        model.structs.structs.map (·.fields.map (·.name)))) =
      some (["XY", "XY0"], [["Field0", "1", "Field2", "AB"], ["Field0", "C"], []]) := by
    decide +kernel
  have hparses : underscoredNames.parseAbi.toOption.isSome = true := by decide +kernel
  obtain ⟨abi, habi⟩ := Option.isSome_iff_exists.mp hparses
  obtain ⟨model, hmodel, hnames⟩ := Option.map_eq_some_iff.mp hbinds
  rw [except_toOption_eq_some_iff] at habi hmodel
  obtain ⟨hmethods, hfields⟩ := Prod.mk.inj hnames
  exact ⟨abi, model, habi, hmodel, hmethods, hfields, namesPlainly_of_bind habi hmodel⟩

/-- A function and a component whose names are identifiers, with nothing or a digit behind the
underscores. -/
def bareUnderscore : Deployment := .ofAbi (.array [entryWithComponents "function" "_" ["_1"]])

/-- Names that are identifiers may leave an empty name, or one that begins with a digit. -/
theorem not_isPlainIdentifier_bareUnderscore :
    ∃ abi model, bareUnderscore.parseAbi = .ok abi ∧
      plainBinder.bind "C" bareUnderscore = .ok model ∧
      (∀ f ∈ abi.functions, isIdentifier f.name = true) ∧
      (∀ e ∈ abi.events, isIdentifier e.name = true) ∧
      (∀ fields ∈ abi.traversal .empty, ∀ field ∈ fields, isIdentifier field.1 = true) ∧
      (∃ method ∈ model.classification.methods, method.normalizedName = "" ∧
        isPlainIdentifier method.normalizedName = false) ∧
      ∃ struct ∈ model.structs.structs, ∃ field ∈ struct.fields,
        field.name = "1" ∧ isPlainIdentifier field.name = false := by
  have hparses : bareUnderscore.parseAbi.toOption.any (fun abi =>
      abi.functions.all (isIdentifier ·.name) && abi.events.all (isIdentifier ·.name) &&
        (abi.traversal .empty).all (·.all (isIdentifier ·.1))) = true := by decide +kernel
  have hbinds : (plainBinder.bind "C" bareUnderscore).toOption.any (fun model =>
      model.classification.methods.any (·.normalizedName == "") &&
        model.structs.structs.any (·.fields.any (·.name == "1"))) = true := by decide +kernel
  obtain ⟨abi, habi, hnames⟩ := (Option.any_eq_true _ _).mp hparses
  obtain ⟨model, hmodel, hbound⟩ := (Option.any_eq_true _ _).mp hbinds
  rw [except_toOption_eq_some_iff] at habi hmodel
  simp only [Bool.and_eq_true, List.all_eq_true] at hnames
  simp only [Bool.and_eq_true, List.any_eq_true, beq_iff_eq] at hbound
  obtain ⟨⟨hfunctions, hevents⟩, hcomponents⟩ := hnames
  obtain ⟨⟨method, hmethod, hempty⟩, struct, hstruct, field, hfield, hdigit⟩ := hbound
  refine ⟨abi, model, habi, hmodel, hfunctions, hevents, hcomponents,
    ⟨method, hmethod, hempty, ?_⟩, struct, hstruct, field, hfield, hdigit, ?_⟩
  · rw [hempty]
    rfl
  · rw [hdigit]
    decide

end ContractBindings
