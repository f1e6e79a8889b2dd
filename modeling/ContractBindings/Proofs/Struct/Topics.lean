import ContractBindings.Proofs.Struct.Growth
import ContractBindings.TextMap.Lookup

/-!
# Topics of dynamic types

A topic of a log entry has a fixed size, so that of an indexed value whose type has no fixed size
only the hash is there. Which types these are is a property of the whole type
(`AbiType.IsDynamic`), but mapping a topic looks at its outermost part: texts and byte sequences get
the type of a hash, while slices, arrays and tuples keep their own bound type, whatever is inside
them. `topic_eq_hashType_iff` says which dynamic types are bound as a hash.
-/

namespace ContractBindings

/-- **Dynamic** type: its values have no fixed size. -/
inductive AbiType.IsDynamic : AbiType → Prop
  /-- A text. -/
  | string : IsDynamic (.elementary .string)
  /-- A byte sequence of any length. -/
  | bytes : IsDynamic (.elementary .bytes)
  /-- A slice, whatever its elements are. -/
  | slice (element : AbiType) : IsDynamic (.slice element)
  /-- An array of dynamic elements. -/
  | array {element : AbiType} (size : Nat) (h : IsDynamic element) : IsDynamic (.array element size)
  /-- A tuple with a dynamic field. -/
  | tuple {fields : TupleFields} {field : String × AbiType} (hmem : field ∈ fields)
      (h : IsDynamic field.2) : IsDynamic (.tuple fields)

theorem AbiType.isDynamic_elementary_iff {kind : Elementary} :
    (elementary kind).IsDynamic ↔ (elementary kind).isHashedTopic = true := by
  constructor
  · rintro (_ | _) <;> rfl
  · intro h
    cases kind with
    | string => exact .string
    | bytes => exact .bytes
    | _ => cases h

theorem AbiType.exists_kind_of_isHashedTopic {type : AbiType} (h : type.isHashedTopic = true) :
    ∃ kind, type = elementary kind := by
  cases type with
  | elementary kind => exact ⟨kind, rfl⟩
  | array | slice | tuple => cases h

/-! ### What a topic is mapped to -/

section Topics

variable {language : Language} {type : AbiType} {topic : String} {before after : StructRegistry}

/-- A text or a byte sequence gets the type of a hash, and no registry has a part in it. -/
theorem mapTopicType_of_isHashedTopic (h : type.isHashedTopic = true) :
    mapTopicType language type = pure language.hashType := by
  obtain ⟨kind, rfl⟩ := AbiType.exists_kind_of_isHashedTopic h
  cases kind with
  | string | bytes => rfl
  | _ => cases h

/-- Every other topic is mapped like a value outside the topics. -/
theorem mapTopicType_of_not_isHashedTopic (h : type.isHashedTopic = false) :
    mapTopicType language type = mapType language type := by
  rw [mapTopicType, h]
  exact bind_pure _

theorem Language.bracket_notMem_hashType (language : Language) :
    '[' ∉ language.hashType.toList := by
  cases language <;> decide

/-- A collection has a name of its own, which is not that of a hash, or brackets behind its
elements. -/
theorem Language.collectionType_ne_hashType (element : String) :
    collectionType element ≠ java.hashType := by
  have hnamed : ∀ entry ∈ namedCollections, entry.2 ≠ java.hashType := by decide
  rw [collectionType]
  cases hfound : namedCollections.lookup element with
  | some name => exact hnamed _ (TextMap.mem_of_lookup hfound)
  | none =>
    intro h
    have hbracket : '[' ∈ (element ++ "[]").toList := by simp
    exact java.bracket_notMem_hashType (h ▸ hbracket)

theorem Language.arrayType_ne_hashType (language : Language) (element : String) (size : Nat) :
    language.arrayType element size ≠ language.hashType := by
  intro h
  cases language with
  | java => exact collectionType_ne_hashType element h
  | golang =>
    have hbracket : '[' ∈ (golang.arrayType element size).toList := by simp [arrayType]
    exact golang.bracket_notMem_hashType (h ▸ hbracket)

theorem Language.sliceType_ne_hashType (language : Language) (element : String) :
    language.sliceType element ≠ language.hashType := by
  intro h
  cases language with
  | java => exact collectionType_ne_hashType element h
  | golang =>
    have hbracket : '[' ∈ (golang.sliceType element).toList := by simp [sliceType]
    exact golang.bracket_notMem_hashType (h ▸ hbracket)

/-- Of the types that are not elementary only a tuple can be bound as a hash, and only under a
display name that says so. -/
theorem StructRegistry.boundType?_eq_hashType {registry : StructRegistry}
    (htype : ∀ kind, type ≠ .elementary kind)
    (h : registry.boundType? language type = some language.hashType) :
    ∃ fields struct, type = .tuple fields ∧
      registry.get? (tupleSignature fields) = some struct ∧ struct.name = language.hashType := by
  cases type with
  | elementary kind => exact absurd rfl (htype kind)
  | array element size =>
    obtain ⟨bound, -, hbound⟩ := Option.map_eq_some_iff.mp h
    exact absurd hbound (language.arrayType_ne_hashType bound size)
  | slice element =>
    obtain ⟨bound, -, hbound⟩ := Option.map_eq_some_iff.mp h
    exact absurd hbound (language.sliceType_ne_hashType bound)
  | tuple fields =>
    obtain ⟨struct, hstruct, hname⟩ := Option.map_eq_some_iff.mp h
    exact ⟨fields, struct, rfl, hstruct, hname⟩

end Topics

/-- **Dynamic topics**: an elementary topic gets the type of a hash if it is dynamic, and its own
bound type otherwise. All other topics, dynamic or not, get their own bound type, which is that of a
hash for no array or slice, and for a tuple only if its struct has that very name. -/
theorem topic_eq_hashType_iff (language : Language) :
    (∀ kind, (AbiType.elementary kind).IsDynamic →
      mapTopicType language (.elementary kind) = pure language.hashType) ∧
    (∀ type : AbiType, (¬∃ kind, type = .elementary kind ∧ type.IsDynamic) →
      mapTopicType language type = mapType language type) ∧
    ∀ (type : AbiType) (before after : StructRegistry) (topic : String), type.IsDynamic →
      (mapTopicType language type).Yields before topic after →
      (topic = language.hashType ↔ (∃ kind, type = .elementary kind) ∨
        ∃ fields struct, type = .tuple fields ∧
          after.get? (tupleSignature fields) = some struct ∧ struct.name = language.hashType) := by
  have helementary : ∀ kind, (AbiType.elementary kind).IsDynamic →
      mapTopicType language (.elementary kind) = pure language.hashType := fun kind h =>
    mapTopicType_of_isHashedTopic (AbiType.isDynamic_elementary_iff.mp h)
  have hother : ∀ type : AbiType, (¬∃ kind, type = .elementary kind ∧ type.IsDynamic) →
      mapTopicType language type = mapType language type := by
    intro type h
    refine mapTopicType_of_not_isHashedTopic (Bool.eq_false_iff.mpr fun hhashed => h ?_)
    obtain ⟨kind, rfl⟩ := AbiType.exists_kind_of_isHashedTopic hhashed
    exact ⟨kind, rfl, AbiType.isDynamic_elementary_iff.mpr hhashed⟩
  refine ⟨helementary, hother, fun type before after topic hdynamic hrun => ?_⟩
  by_cases htype : ∃ kind, type = .elementary kind
  · obtain ⟨kind, rfl⟩ := htype
    rw [helementary kind hdynamic, Resolve.yields_pure] at hrun
    exact iff_of_true hrun.1.symm (.inl ⟨kind, rfl⟩)
  · rw [hother type fun ⟨kind, heq, _⟩ => htype ⟨kind, heq⟩] at hrun
    have hbound := (grows_mapType language type).result hrun (.refl after)
    constructor
    · rintro rfl
      exact .inr (StructRegistry.boundType?_eq_hashType (not_exists.mp htype) hbound)
    · rintro (hkind | ⟨fields, struct, rfl, hstruct, hname⟩)
      · exact absurd hkind htype
      · rw [StructRegistry.boundType?, hstruct] at hbound
        exact (Option.some.inj hbound).symm.trans hname

/-- Notes, each with the number that it is about. -/
def notes : AbiType :=
  .slice (.tuple [("note", .elementary .string), ("number", .elementary (.uint 8))])

theorem topic_eq_hashType_iff_notes :
    mapTopicType .golang (.elementary .string) = pure "common.Hash" ∧
    mapTopicType .golang (.elementary .address) = mapType .golang (.elementary .address) ∧
    notes.IsDynamic ∧ ∃ after topic, (mapTopicType .golang notes).Yields .empty topic after ∧
      topic = "[]Struct0" ∧
      (topic = Language.golang.hashType ↔ (∃ kind, notes = .elementary kind) ∨
        ∃ fields struct, notes = .tuple fields ∧
          after.get? (tupleSignature fields) = some struct ∧ struct.name = "common.Hash") := by
  obtain ⟨helementary, hother, hdynamic⟩ := topic_eq_hashType_iff .golang
  have haddress : ¬∃ kind, AbiType.elementary .address = .elementary kind ∧
      (AbiType.elementary .address).IsDynamic := by
    rintro ⟨_, _, h⟩
    cases h
  have hrun : (mapTopicType .golang notes).Yields .empty "[]Struct0" _ := rfl
  exact ⟨helementary .string .string, hother _ haddress, .slice _, _, _, hrun, rfl,
    hdynamic notes .empty _ _ (.slice _) hrun⟩

/-- A slice of numbers and an array of texts are dynamic, but neither is bound as a hash. -/
theorem topic_ne_hashType_numbers :
    (AbiType.slice (.elementary (.uint 8))).IsDynamic ∧
      (mapTopicType .golang (.slice (.elementary (.uint 8)))).outcome .empty =
        (.ok "[]uint8", .empty) ∧
      "[]uint8" ≠ Language.golang.hashType ∧
    (AbiType.array (.elementary .string) 2).IsDynamic ∧
      (mapTopicType .java (.array (.elementary .string) 2)).outcome .empty =
        (.ok "Strings", .empty) ∧
      "Strings" ≠ Language.java.hashType :=
  ⟨.slice _, rfl, by decide, .array 2 .string, rfl, by decide⟩

end ContractBindings
