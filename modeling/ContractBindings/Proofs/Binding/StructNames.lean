import ContractBindings.Proofs.Binding.Batches
import ContractBindings.Proofs.Binding.Clashes
import ContractBindings.Proofs.Binding.Members
import ContractBindings.Proofs.Naming.Identifiers

/-!
# Display names of a model

A configuration is checked entry by entry, while a contract is bound under two entries laid over
each other. The check is one of every key with its value, and each key of the upper and lower entry
has its value from one of them, so customizations in effect pass it again
(`BindConfig.isSound_customsFor`). Custom names are therefore identifiers, as the synthesized ones
are, and the check of the registry makes sure that they differ (`namesStructs_of_ofConfig`).
-/

namespace ContractBindings

/-! ### Identifiers -/

/-- Text of an **identifier**: a letter or underscore, and word characters behind it. -/
def IsIdentifierText (text : List Char) : Prop :=
  ∃ c rest, text = c :: rest ∧ (c.isAlpha = true ∨ c = '_') ∧ IsWordText rest

theorem isIdentifier_iff {name : String} :
    isIdentifier name = true ↔ IsIdentifierText name.toList := by
  rw [isIdentifier]
  cases name.toList with
  | nil =>
    refine iff_of_false Bool.false_ne_true ?_
    rintro ⟨c, rest, h, -⟩
    cases h
  | cons c rest =>
    simp only [Bool.and_eq_true, Bool.or_eq_true, List.all_eq_true, beq_iff_eq]
    constructor
    · rintro ⟨hc, hrest⟩
      exact ⟨c, rest, rfl, hc, hrest⟩
    · rintro ⟨_, _, h, hc, hrest⟩
      obtain ⟨rfl, rfl⟩ := List.cons.inj h
      exact ⟨hc, hrest⟩

/-- Digits may be put behind an identifier. -/
theorem IsIdentifierText.append_digits {text digits : List Char} (h : IsIdentifierText text)
    (hdigits : ∀ c ∈ digits, c.isDigit = true) : IsIdentifierText (text ++ digits) := by
  obtain ⟨c, rest, rfl, hc, hrest⟩ := h
  refine ⟨c, rest ++ digits, rfl, hc, List.forall_mem_append.mpr ⟨hrest, fun d hd => ?_⟩⟩
  exact .inl (isAlphanum_of_isDigit (hdigits d hd))

/-- Synthesized names are identifiers. -/
theorem Language.isIdentifierText_synthesized (language : Language) (place : Nat) :
    IsIdentifierText (language.structStem ++ toString place).toList := by
  have hstem : IsIdentifierText language.structStem.toList :=
    isIdentifier_iff.mp (by cases language <;> decide)
  rw [String.toList_append]
  exact hstem.append_digits fun _ => isDigit_of_mem_toString

/-! ### Customizations -/

namespace Customs

/-- **Sound** customizations: tuples have identifiers for names, and imports are not empty. -/
structure IsSound (customs : Customs) : Prop where
  /-- Display names are identifiers, and are given for signatures of tuples. -/
  structs : ∀ signature name, customs.structs.get? signature = some name →
    isParenthesized signature = true ∧ isIdentifier name = true
  /-- Neither alias nor path of an import is empty. -/
  imports : ∀ key path, customs.imports.get? key = some path →
    key.isEmpty = false ∧ path.isEmpty = false

theorem structFault?_eq_none_iff {contract signature name : String} :
    structFault? contract signature name = none ↔
      isParenthesized signature = true ∧ isIdentifier name = true := by
  rw [structFault?]
  cases isParenthesized signature <;> cases isIdentifier name <;> simp

theorem importFault?_eq_none_iff {contract key path : String} :
    importFault? contract key path = none ↔ key.isEmpty = false ∧ path.isEmpty = false := by
  rw [importFault?]
  cases key.isEmpty <;> cases path.isEmpty <;> simp

/-- The check of customizations passes exactly for sound ones, whatever the contract. -/
theorem fault?_eq_none_iff {customs : Customs} {contract : String} :
    customs.fault? contract = none ↔ customs.IsSound := by
  rw [fault?, Option.orElse_eq_none, List.findSome?_eq_none_iff, List.findSome?_eq_none_iff]
  constructor
  · rintro ⟨hstructs, himports⟩
    refine ⟨fun signature name h => ?_, fun key path h => ?_⟩
    · have hnone : structFault? contract signature name = none :=
        hstructs (signature, name) (TextMap.get?_eq_some_iff.mp h)
      exact structFault?_eq_none_iff.mp hnone
    · have hnone : importFault? contract key path = none :=
        himports (key, path) (TextMap.get?_eq_some_iff.mp h)
      exact importFault?_eq_none_iff.mp hnone
  · rintro ⟨hstructs, himports⟩
    refine ⟨fun (signature, name) h => ?_, fun (key, path) h => ?_⟩
    · exact structFault?_eq_none_iff.mpr (hstructs _ _ (TextMap.get?_eq_some_iff.mpr h))
    · exact importFault?_eq_none_iff.mpr (himports _ _ (TextMap.get?_eq_some_iff.mpr h))

theorem validate_eq_ok_iff {customs : Customs} {contract : String} :
    customs.validate contract = .ok () ↔ customs.IsSound := by
  rw [← @fault?_eq_none_iff customs contract, validate]
  cases customs.fault? contract <;> simp

theorem isSound_empty : empty.IsSound :=
  ⟨(fun _ _ h => nomatch h), fun _ _ h => nomatch h⟩

/-- Every key of two layers has its value from one of them. -/
theorem IsSound.merge {lower upper : Customs} (hlower : lower.IsSound) (hupper : upper.IsSound) :
    (lower.merge upper).IsSound where
  structs := by
    intro signature name h
    rw [Customs.merge, TextMap.get?_union, Option.or_eq_some_iff] at h
    exact h.elim (hupper.structs _ _) fun h => hlower.structs _ _ h.2
  imports := by
    intro key path h
    rw [Customs.merge, TextMap.get?_union, Option.or_eq_some_iff] at h
    exact h.elim (hupper.imports _ _) fun h => hlower.imports _ _ h.2

end Customs

namespace BindConfig

variable {config : BindConfig}

/-- In a configuration without a fault the customizations of every contract are sound. -/
theorem isSound_of_get? (hvalid : config.fault? = none) {contract : String} {customs : Customs}
    (h : config.customs.get? contract = some customs) : customs.IsSound := by
  have hentry := List.findSome?_eq_none_iff.mp hvalid _ (TextMap.get?_eq_some_iff.mp h)
  dsimp only at hentry
  split at hentry
  · cases hentry
  · exact Customs.fault?_eq_none_iff.mp hentry

/-- The customizations in effect for a contract are sound. -/
theorem isSound_customsFor (hvalid : config.fault? = none) (contract : String) :
    (config.customsFor contract).IsSound := by
  have hshared : ((config.customs.get? defaultName).getD .empty).IsSound := by
    cases h : config.customs.get? defaultName with
    | none => exact Customs.isSound_empty
    | some shared => exact isSound_of_get? hvalid h
  rw [customsFor]
  cases h : config.customs.get? contract with
  | none => exact hshared
  | some own => exact hshared.merge (isSound_of_get? hvalid h)

end BindConfig

/-! ### Models -/

/-- **Display names** of a model: each is the custom one for the struct's signature or a synthesized
one, is an identifier, and belongs to one struct. -/
structure ContractModel.NamesStructs (model : ContractModel) (overrides : TextMap String) :
    Prop where
  /-- A custom name comes before a synthesized one. -/
  custom_or_synthesized : ∀ (place : Nat) (struct : StructDescriptor),
    model.structs.structs[place]? = some struct →
    struct.name =
      (overrides.get? struct.signature).getD (model.language.structStem ++ toString place)
  /-- Every name is an identifier. -/
  isIdentifierText : ∀ struct ∈ model.structs.structs, IsIdentifierText struct.name.toList
  /-- No two structs share a name. -/
  nodup : (model.structs.structs.map (·.name)).Nodup

/-- **Names from a checked configuration**: the customizations in effect for a contract pass the
check again, under any name, and in every model the display names are identifiers that differ. -/
theorem namesStructs_of_ofConfig {config : BindConfig} {binder : Binder}
    (h : Binder.ofConfig config = .ok binder) (name : String) :
    (∀ contract, (config.customsFor name).validate contract = .ok ()) ∧
      ∀ deployment model, binder.bind name deployment = .ok model →
        model.NamesStructs (config.customsFor name).structs := by
  obtain rfl := Binder.ofConfig_eq_ok_iff.mp h
  have hsound := BindConfig.isSound_customsFor binder.valid name
  refine ⟨fun _ => Customs.validate_eq_ok_iff.mpr hsound, fun deployment model hmodel => ?_⟩
  have horigin : ∀ (place : Nat) (struct : StructDescriptor),
      model.structs.structs[place]? = some struct →
      struct.name = ((binder.config.customsFor name).structs.get? struct.signature).getD
        (model.language.structStem ++ toString place) := by
    obtain ⟨abi, -, -, habi, -⟩ := Binder.bind_eq_ok_iff.mp hmodel
    obtain ⟨-, hstructs, -⟩ := traversal_of_bind habi hmodel
    intro place struct hplace
    rw [hstructs, StructRegistry.structs_ofTraversal, List.getElem?_mapIdx,
      Option.map_eq_some_iff] at hplace
    obtain ⟨fields, -, rfl⟩ := hplace
    rfl
  refine ⟨horigin, fun struct hstruct => ?_, ?_⟩
  · obtain ⟨place, hplace⟩ := List.mem_iff_getElem?.mp hstruct
    rw [horigin place struct hplace]
    cases hcustom : (binder.config.customsFor name).structs.get? struct.signature with
    | none => exact model.language.isIdentifierText_synthesized place
    | some custom => exact isIdentifier_iff.mp (hsound.structs _ _ hcustom).2
  · obtain ⟨_, result, structs, -, -, hassemble⟩ := Binder.bind_eq_ok_iff.mp hmodel
    obtain ⟨hnames, rfl⟩ := Binder.assemble_eq_ok_iff.mp hassemble
    exact StructRegistry.checkNames_eq_ok_iff.mp hnames

/-- The configuration for Go with custom names for every contract and another one for `C`. -/
def layeredNames : BindConfig :=
  ⟨.golang, .ethereum, .ofList
    [("default", ⟨.ofList [("(bool)", "_Flag"), ("(uint8)", "Count")], .empty, .empty⟩),
      ("C", ⟨.ofList [("(uint8)", "Tally")], .empty, .empty⟩)]⟩

/-- The binder for this configuration. -/
def layeredBinder : Binder := ⟨layeredNames, rfl⟩

theorem namesStructs_of_ofConfig_layered :
    ∃ binder model, Binder.ofConfig layeredNames = .ok binder ∧
      binder.bind "C" threeTuples = .ok model ∧
      model.structs.structs.map (·.name) = ["_Flag", "Tally", "Struct2"] ∧
      (layeredNames.customsFor "C").validate "C" = .ok () ∧
      model.NamesStructs (layeredNames.customsFor "C").structs := by
  have hbinder : Binder.ofConfig layeredNames = .ok layeredBinder :=
    Binder.ofConfig_eq_ok_iff.mpr rfl
  have hbinds : (layeredBinder.bind "C" threeTuples).toOption.map
      (·.structs.structs.map (·.name)) = some ["_Flag", "Tally", "Struct2"] := by
    decide +kernel
  obtain ⟨model, hmodel, hnames⟩ := Option.map_eq_some_iff.mp hbinds
  rw [except_toOption_eq_some_iff] at hmodel
  obtain ⟨hagain, hstructs⟩ := namesStructs_of_ofConfig hbinder "C"
  exact ⟨_, model, hbinder, hmodel, hnames, hagain "C", hstructs _ _ hmodel⟩

end ContractBindings
