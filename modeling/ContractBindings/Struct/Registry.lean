import ContractBindings.Error
import ContractBindings.TextMap.Lookup

/-!
# Struct registry

The structs synthesized for the tuples of one contract, in the order of their creation. A
struct is found by the canonical signature of its tuple, through an index of the places. Its
display name is the custom name given for that signature, or else a stem followed by the number
of structs before it; structs with a custom name count too.
-/

namespace ContractBindings

/-- **Field** of a struct. -/
structure StructField where
  /-- The name in the target language. -/
  name : String
  /-- The bound type. -/
  boundType : String
  /-- The ABI type. -/
  abiType : AbiType

/-- **Struct** synthesized for a tuple. -/
structure StructDescriptor where
  /-- The display name. -/
  name : String
  /-- The canonical signature of the tuple. -/
  signature : String
  /-- The fields, in the order of the tuple. -/
  fields : List StructField

/-! ### Indexes -/

/-- **Index** of some structs: their places by canonical signature. -/
structure IsIndex (index : TextMap Nat) (structs : List StructDescriptor) : Prop where
  /-- A signature leads to the place of a struct with that signature. -/
  leads : ∀ {signature : String} {place : Nat}, index.get? signature = some place →
    ∃ struct, structs[place]? = some struct ∧ struct.signature = signature
  /-- Every struct is entered under its signature. -/
  enters : ∀ struct ∈ structs, ∃ place, index.get? struct.signature = some place

namespace IsIndex

protected theorem empty : IsIndex .empty [] where
  leads := fun h => nomatch h
  enters := fun _ h => nomatch h

/-- A struct behind the others is entered with the number of those before it. -/
protected theorem insert {index : TextMap Nat} {structs : List StructDescriptor}
    (h : IsIndex index structs) (struct : StructDescriptor) :
    IsIndex (index.insert struct.signature structs.length) (structs ++ [struct]) where
  leads := by
    intro signature place hfound
    rw [TextMap.get?_insert] at hfound
    split at hfound
    · rename_i hsame
      obtain rfl := Option.some.inj hfound
      exact ⟨struct, by simp, hsame.symm⟩
    · obtain ⟨other, hplace, hsignature⟩ := h.leads hfound
      refine ⟨other, ?_, hsignature⟩
      rw [List.getElem?_append_left (List.getElem?_eq_some_iff.mp hplace).1, hplace]
  enters := by
    intro other hother
    rw [TextMap.get?_insert]
    split
    · exact ⟨_, rfl⟩
    · rename_i hdiffers
      rcases List.mem_append.mp hother with hold | hlast
      · exact h.enters other hold
      · exact absurd (congrArg StructDescriptor.signature (List.mem_singleton.mp hlast)) hdiffers

end IsIndex

/-! ### Registries -/

/-- **Struct registry** of a contract. -/
@[ext]
structure StructRegistry where
  /-- Display names by canonical signature. -/
  overrides : TextMap String
  /-- The structs in the order of their creation. -/
  structs : List StructDescriptor
  /-- The places of the structs by canonical signature. -/
  index : TextMap Nat
  /-- The index is one of these structs. -/
  indexed : IsIndex index structs

namespace StructRegistry

/-- The registry without a struct that gives the tuples of the listed signatures their own
names. -/
def withOverrides (overrides : TextMap String) : StructRegistry := ⟨overrides, [], .empty, .empty⟩

/-- The registry without a struct and without custom names. -/
def empty : StructRegistry := withOverrides .empty

instance : Inhabited StructRegistry := ⟨empty⟩

/-- The struct for a canonical signature: the one at the place that the index has for it. -/
def get? (registry : StructRegistry) (signature : String) : Option StructDescriptor := do
  let place ← registry.index.get? signature
  registry.structs[place]?

/-- The number of structs. -/
def size (registry : StructRegistry) : Nat := registry.structs.length

/-- Whether there is no struct. -/
def isEmpty (registry : StructRegistry) : Bool := registry.structs.isEmpty

/-- The display name that the next struct has if it is for the given signature. -/
def nextName (registry : StructRegistry) (stem signature : String) : String :=
  (registry.overrides.get? signature).getD (stem ++ toString registry.size)

/-- The registry with one more struct. -/
def add (registry : StructRegistry) (stem signature : String) (fields : List StructField) :
    StructRegistry :=
  let struct : StructDescriptor := ⟨registry.nextName stem signature, signature, fields⟩
  { registry with
    structs := registry.structs ++ [struct]
    index := registry.index.insert signature registry.size
    indexed := registry.indexed.insert struct }

section Add

variable (registry : StructRegistry) (stem signature : String) (fields : List StructField)

@[simp]
theorem overrides_add : (registry.add stem signature fields).overrides = registry.overrides := rfl

@[simp]
theorem structs_add : (registry.add stem signature fields).structs =
    registry.structs ++ [⟨registry.nextName stem signature, signature, fields⟩] := rfl

@[simp]
theorem index_add : (registry.add stem signature fields).index =
    registry.index.insert signature registry.size := rfl

end Add

/-! ### Clashes of display names -/

/-- The first of `structs` that has the name of one before it, behind that one. `earlier`
are the structs before all of them, the latest first. -/
def firstClash? (earlier : List StructDescriptor) :
    List StructDescriptor → Option (StructDescriptor × StructDescriptor)
  | [] => none
  | struct :: rest =>
    match earlier.find? (·.name == struct.name) with
    | some first => some (first, struct)
    | none => firstClash? (struct :: earlier) rest

/-- Makes sure that no two structs share a display name. -/
def checkNames (registry : StructRegistry) : Except BindError Unit :=
  match firstClash? [] registry.structs with
  | none => .ok ()
  | some (first, second) =>
    .error (.duplicateStruct second.name first.signature second.signature)

end StructRegistry

end ContractBindings
