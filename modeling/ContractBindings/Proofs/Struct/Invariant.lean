import ContractBindings.Proofs.Naming.Fields
import ContractBindings.Proofs.Struct.Growth
import ContractBindings.TextMap.Lookup
import Mathlib.Data.List.Nodup

/-!
# The invariant of a registry

A registry is **sound** (`StructRegistry.Sound`) if no two of its structs have the same signature,
its index has the places of its structs and nothing else, every struct has the name of its place,
and its fields have the bound types that the structs before it give, so that all tuples inside them
have their structs before it. A step keeps this (`Sound.step`), and so does every growth
(`Sound.growsBy`).
-/

namespace ContractBindings

/-! ### Fields of structs -/

/-- The fields of a struct have the types of the tuple's fields and the given bound types. -/
theorem forall₂_structFields (language : Language) {fields : TupleFields}
    {boundTypes : List String} {P : String × AbiType → String → Prop}
    (h : List.Forall₂ P fields boundTypes) :
    List.Forall₂ (fun source field => field.abiType = source.2 ∧ P source field.boundType) fields
      (structFields language fields boundTypes) := by
  -- the names play no part, if there are enough of them
  suffices ∀ names : List String, names.length = fields.length →
      List.Forall₂ (fun source (field : StructField) =>
          field.abiType = source.2 ∧ P source field.boundType) fields
        ((names.zip (boundTypes.zip (fields.map (·.2)))).map fun parts =>
          ⟨parts.1, parts.2.1, parts.2.2⟩) from
    this _ (by simp)
  induction h with
  | nil => simp
  | cons hfield hrest ih =>
    intro names hlength
    cases names with
    | nil => exact absurd hlength (by simp)
    | cons name names =>
      exact .cons ⟨rfl, hfield⟩ (ih names (by simpa using hlength))

namespace StructRegistry

variable {language : Language} {registry before after : StructRegistry}

/-! ### Sound registries -/

/-- The registry when the struct at the given place was next. -/
def upTo (registry : StructRegistry) (place : Nat) : StructRegistry :=
  .ofStructs registry.overrides (registry.structs.take place)

/-- **Sound** registry of a language. -/
structure Sound (language : Language) (registry : StructRegistry) : Prop where
  /-- No two structs have the same signature. -/
  distinct : registry.signatures.Nodup
  /-- A signature is in the index if it has a struct, and then with the place of that. -/
  index : ∀ {signature : String} {place : Nat}, registry.index.get? signature = some place ↔
    ∃ struct, registry.structs[place]? = some struct ∧ struct.signature = signature
  /-- A struct has the custom name for its signature, or else the stem followed by its place. -/
  name : ∀ {place : Nat} {struct : StructDescriptor}, registry.structs[place]? = some struct →
    struct.name = placedName language registry.overrides place struct.signature
  /-- The signature is that of the tuple of the field types. -/
  signature : ∀ {place : Nat} {struct : StructDescriptor}, registry.structs[place]? = some struct →
    struct.signature = tupleSignature (struct.fields.map fun field => (field.name, field.abiType))
  /-- The bound types of the fields are known from the structs before. -/
  typed : ∀ {place : Nat} {struct : StructDescriptor}, registry.structs[place]? = some struct →
    ∀ field ∈ struct.fields,
      (registry.upTo place).boundType? language field.abiType = some field.boundType
  /-- The tuples inside the field types have structs before. -/
  nested : ∀ {place : Nat} {struct : StructDescriptor}, registry.structs[place]? = some struct →
    ∀ field ∈ struct.fields, ∀ inner ∈ field.abiType.tuples,
      ∃ earlier < place, ∃ other : StructDescriptor,
        registry.structs[earlier]? = some other ∧ other.signature = tupleSignature inner

theorem sound_withOverrides (language : Language) (overrides : TextMap String) :
    (withOverrides overrides).Sound language := by
  have hnone : ∀ place : Nat, (withOverrides overrides).structs[place]? = none := fun _ => rfl
  have hdistinct : (withOverrides overrides).signatures.Nodup := List.nodup_nil
  exact {
    distinct := hdistinct
    index := get?_index_eq_some_iff hdistinct
    name := fun h => by simp [hnone] at h
    signature := fun h => by simp [hnone] at h
    typed := fun h => by simp [hnone] at h
    nested := fun h => by simp [hnone] at h }

/-- In a sound registry, a type whose bound type is known has structs for all tuples inside it. The
struct of a tuple may come from another tuple of the same shape. -/
theorem Sound.mem_signatures (h : registry.Sound language) {type : AbiType} {bound : String}
    (hknown : registry.boundType? language type = some bound) :
    ∀ inner ∈ type.tuples, tupleSignature inner ∈ registry.signatures := by
  induction type using AbiType.induct generalizing bound with
  | elementary kind => exact fun _ hinner => absurd hinner List.not_mem_nil
  | array element size ih =>
    obtain ⟨_, helement, -⟩ := Option.map_eq_some_iff.mp hknown
    exact ih helement
  | slice element ih =>
    obtain ⟨_, helement, -⟩ := Option.map_eq_some_iff.mp hknown
    exact ih helement
  | tuple fields ih =>
    obtain ⟨struct, hfound, -⟩ := Option.map_eq_some_iff.mp hknown
    obtain ⟨hmem, hsignature⟩ := of_get?_eq_some hfound
    obtain ⟨place, hplace⟩ := List.mem_iff_getElem?.mp hmem
    have hsame := map_tuples_of_tupleSignature_eq (hsignature.symm.trans (h.signature hplace))
    intro inner hinner
    have hinside := List.mem_map_of_mem hinner (f := tupleSignature)
    rw [hsame, List.mem_map] at hinside
    obtain ⟨known, hknown, heq⟩ := hinside
    rw [← heq]
    rcases List.mem_append.mp hknown with hfield | hself
    · rw [fieldTuples_eq_flatMap, List.mem_flatMap] at hfield
      obtain ⟨_, hsource, hfield⟩ := hfield
      obtain ⟨field, hmem, rfl⟩ := List.mem_map.mp hsource
      obtain ⟨_, -, other, hother, hsignature⟩ := h.nested hplace field hmem known hfield
      exact hsignature ▸ mem_signatures_of_mem (List.mem_of_getElem? hother)
    · rw [List.mem_singleton.mp hself, ← h.signature hplace]
      exact mem_signatures_of_mem hmem

/-! ### What a step keeps -/

/-- The structs before an old place stay the same. -/
theorem upTo_add {stem signature : String} {fields : List StructField} {place : Nat}
    (h : place ≤ registry.size) :
    (registry.add stem signature fields).upTo place = registry.upTo place := by
  rw [upTo, upTo, overrides_add, structs_add, List.take_append_of_le_length h]

theorem upTo_size (h : registry.signatures.Nodup) : registry.upTo registry.size = registry := by
  rw [upTo, size, List.take_length, ofStructs_eq_self h]

/-- **A step keeps a registry sound.** The new struct is the last one, so that nothing changes for
the others, and all structs come before it. -/
theorem Sound.step {fields : TupleFields} (h : before.Sound language)
    (hstep : AddsStruct language fields before after) : after.Sound language := by
  obtain ⟨hfresh, boundTypes, htypes, rfl⟩ := hstep
  have hfields := forall₂_structFields language htypes
  -- what is said of an old struct mentions the structs before it only
  have hold : ∀ {place : Nat} {struct : StructDescriptor},
      before.structs[place]? = some struct → place ≤ before.size := fun hplace =>
    Nat.le_of_lt (List.getElem?_eq_some_iff.mp hplace).1
  have hextends : before.Extends (before.add language.structStem (tupleSignature fields)
      (structFields language fields boundTypes)) := extends_add hfresh
  have hdistinct : (before.add language.structStem (tupleSignature fields)
      (structFields language fields boundTypes)).signatures.Nodup := by
    rw [signatures_add, ← List.concat_eq_append]
    exact h.distinct.concat hfresh
  -- a field of the new struct has the type of a field of the tuple, and its bound type is known
  have hsource : ∀ field ∈ structFields language fields boundTypes,
      before.boundType? language field.abiType = some field.boundType := by
    intro field hfield
    obtain ⟨source, -, htype, hbound⟩ := exists_mem_of_forall₂ hfields hfield
    rw [htype, hbound]
  exact {
    distinct := hdistinct
    index := get?_index_eq_some_iff hdistinct
    name := by
      intro place struct hplace
      rcases getElem?_structs_add hplace with hbefore | ⟨rfl, rfl⟩
      · exact h.name hbefore
      · rfl
    signature := by
      intro place struct hplace
      rcases getElem?_structs_add hplace with hbefore | ⟨-, rfl⟩
      · exact h.signature hbefore
      · refine tupleSignature_congr ?_
        rw [List.map_map, ← List.forall₂_eq_eq_eq, List.forall₂_map_left_iff,
          List.forall₂_map_right_iff]
        exact hfields.imp fun _ _ hfield => hfield.1.symm
    typed := by
      intro place struct hplace field hfield
      rcases getElem?_structs_add hplace with hbefore | ⟨rfl, rfl⟩
      · rw [upTo_add (hold hbefore)]
        exact h.typed hbefore field hfield
      · rw [upTo_add (Nat.le_refl _), upTo_size h.distinct]
        exact hsource field hfield
    nested := by
      intro place struct hplace field hfield inner hinner
      rcases getElem?_structs_add hplace with hbefore | ⟨rfl, rfl⟩
      · obtain ⟨earlier, hlt, other, hother, hsignature⟩ :=
          h.nested hbefore field hfield inner hinner
        exact ⟨earlier, hlt, other, hextends.getElem?_structs hother, hsignature⟩
      · have hmem := h.mem_signatures (hsource field hfield) inner hinner
        obtain ⟨other, hother, hsignature⟩ := List.mem_map.mp hmem
        obtain ⟨earlier, hearlier⟩ := List.mem_iff_getElem?.mp hother
        exact ⟨earlier, (List.getElem?_eq_some_iff.mp hearlier).1, other,
          hextends.getElem?_structs hearlier, hsignature⟩ }

/-- A growth keeps a registry sound. -/
theorem Sound.growsBy {tuples : List TupleFields} (h : before.Sound language)
    (hgrowth : before.GrowsBy language tuples after) : after.Sound language := by
  induction hgrowth with
  | refl => exact h
  | tail _ hstep ih =>
    obtain ⟨_, -, hstep⟩ := hstep
    exact ih.step hstep

end StructRegistry

end ContractBindings
