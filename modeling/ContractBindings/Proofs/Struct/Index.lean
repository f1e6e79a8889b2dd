import ContractBindings.Struct.Registry
import Mathlib.Data.List.Induction
import Mathlib.Data.List.Nodup

/-!
# Looking up structs

A registry finds the struct for a signature at the place that its index has for it. In every
registry, what is found has the signature that was asked for, and nothing is found only where there
is no such struct. If no two structs have the same signature, the index has the place of every
struct and no other entry (`get?_index_eq_some_iff`).

`StructRegistry.ofStructs` is the registry that some structs make up when they are added one after
the other.
-/

namespace ContractBindings

namespace StructRegistry

variable {registry : StructRegistry} {signature : String} {struct : StructDescriptor}

/-- The canonical signatures of the structs, in the order of their creation. -/
def signatures (registry : StructRegistry) : List String :=
  registry.structs.map (·.signature)

theorem mem_signatures_of_mem (h : struct ∈ registry.structs) :
    struct.signature ∈ registry.signatures :=
  List.mem_map_of_mem h

/-! ### What is found -/

theorem get?_eq_some_iff_exists :
    registry.get? signature = some struct ↔
      ∃ place, registry.index.get? signature = some place ∧
        registry.structs[place]? = some struct :=
  Option.bind_eq_some_iff

/-- What is found has the signature that was asked for. -/
theorem of_get?_eq_some (h : registry.get? signature = some struct) :
    struct ∈ registry.structs ∧ struct.signature = signature := by
  obtain ⟨place, hindex, hplace⟩ := get?_eq_some_iff_exists.mp h
  obtain ⟨other, hother, hsignature⟩ := registry.indexed.leads hindex
  obtain rfl := Option.some.inj (hother.symm.trans hplace)
  exact ⟨List.mem_of_getElem? hplace, hsignature⟩

/-- Something is found for the signature of every struct. -/
theorem exists_get?_of_mem (h : struct ∈ registry.structs) :
    ∃ other, registry.get? struct.signature = some other := by
  obtain ⟨place, hindex⟩ := registry.indexed.enters struct h
  obtain ⟨other, hother, -⟩ := registry.indexed.leads hindex
  exact ⟨other, get?_eq_some_iff_exists.mpr ⟨place, hindex, hother⟩⟩

theorem get?_eq_none_iff : registry.get? signature = none ↔ signature ∉ registry.signatures := by
  constructor
  · intro hnone hmem
    obtain ⟨struct, hstruct, rfl⟩ := List.mem_map.mp hmem
    obtain ⟨other, hother⟩ := exists_get?_of_mem hstruct
    exact Option.some_ne_none other (hother.symm.trans hnone)
  · intro habsent
    refine Option.eq_none_iff_forall_ne_some.mpr fun struct hfound => habsent ?_
    obtain ⟨hstruct, rfl⟩ := of_get?_eq_some hfound
    exact mem_signatures_of_mem hstruct

/-- The keys of the index are the signatures of the structs. -/
theorem mem_keys_index_iff : signature ∈ registry.index.keys ↔ signature ∈ registry.signatures := by
  rw [TextMap.mem_keys_iff]
  constructor
  · rintro ⟨place, hindex⟩
    obtain ⟨struct, hplace, rfl⟩ := registry.indexed.leads hindex
    exact mem_signatures_of_mem (List.mem_of_getElem? hplace)
  · intro hmem
    obtain ⟨struct, hstruct, rfl⟩ := List.mem_map.mp hmem
    exact registry.indexed.enters struct hstruct

/-! ### Different signatures -/

/-- Where all signatures differ, a struct is found under its signature. -/
theorem get?_eq_some_iff (h : registry.signatures.Nodup) :
    registry.get? signature = some struct ↔
      struct ∈ registry.structs ∧ struct.signature = signature := by
  refine ⟨of_get?_eq_some, fun ⟨hmem, hsignature⟩ => ?_⟩
  obtain ⟨other, hfound⟩ := exists_get?_of_mem hmem
  obtain ⟨hother, hsame⟩ := of_get?_eq_some hfound
  rw [← hsignature, hfound, List.inj_on_of_nodup_map h hother hmem hsame]

/-- Where all signatures differ, the index has the place of every struct and nothing else. -/
theorem get?_index_eq_some_iff (h : registry.signatures.Nodup) {place : Nat} :
    registry.index.get? signature = some place ↔
      ∃ struct, registry.structs[place]? = some struct ∧ struct.signature = signature := by
  refine ⟨registry.indexed.leads, ?_⟩
  rintro ⟨struct, hplace, rfl⟩
  obtain ⟨other, hindex⟩ := registry.indexed.enters struct (List.mem_of_getElem? hplace)
  obtain ⟨found, hfound, hsignature⟩ := registry.indexed.leads hindex
  -- one signature stands at both places
  have hlt : other < registry.signatures.length := by
    rw [signatures, List.length_map]
    exact (List.getElem?_eq_some_iff.mp hfound).1
  have hsame : registry.signatures[other]? = registry.signatures[place]? := by
    rw [signatures, List.getElem?_map, List.getElem?_map, hfound, hplace, Option.map_some,
      Option.map_some, hsignature]
  rw [hindex, (List.getElem?_inj hlt h).mp hsame]

/-! ### Adding structs -/

section Add

variable {stem : String} {fields : List StructField} {place : Nat}

theorem signatures_add :
    (registry.add stem signature fields).signatures = registry.signatures ++ [signature] := by
  simp [signatures]

/-- A struct after adding one is an old one or the new one, which has the last place. -/
theorem getElem?_structs_add
    (h : (registry.add stem signature fields).structs[place]? = some struct) :
    registry.structs[place]? = some struct ∨
      place = registry.size ∧ struct = ⟨registry.nextName stem signature, signature, fields⟩ := by
  rw [structs_add] at h
  rcases Nat.lt_or_ge place registry.structs.length with hlt | hge
  · rw [List.getElem?_append_left hlt] at h
    exact .inl h
  · rw [List.getElem?_append_right hge, List.getElem?_singleton] at h
    obtain ⟨hplace, hstruct⟩ := Option.ite_none_right_eq_some.mp h
    exact .inr ⟨by rw [size]; omega, (Option.some.inj hstruct).symm⟩

/-- A struct that was added is found. -/
theorem get?_add_self :
    (registry.add stem signature fields).get? signature =
      some ⟨registry.nextName stem signature, signature, fields⟩ := by
  refine get?_eq_some_iff_exists.mpr ⟨registry.size, ?_, ?_⟩
  · rw [index_add, TextMap.get?_insert, if_pos rfl]
  · exact List.getElem?_concat_length

end Add

/-- The places of some structs, entered one after the other. -/
def placesOf (structs : List StructDescriptor) : TextMap Nat :=
  .ofList (structs.mapIdx fun place struct => (struct.signature, place))

theorem placesOf_concat (structs : List StructDescriptor) (struct : StructDescriptor) :
    placesOf (structs ++ [struct]) =
      (placesOf structs).insert struct.signature structs.length := by
  rw [placesOf, List.mapIdx_concat, TextMap.ofList, TextMap.insertMany, List.foldl_append]
  rfl

theorem isIndex_placesOf (structs : List StructDescriptor) :
    IsIndex (placesOf structs) structs := by
  induction structs using List.reverseRecOn with
  | nil => exact .empty
  | append_singleton structs struct ih =>
    rw [placesOf_concat]
    exact ih.insert struct

/-- The registry that some structs **make up** when they are added one after the other. -/
def ofStructs (overrides : TextMap String) (structs : List StructDescriptor) : StructRegistry :=
  ⟨overrides, structs, placesOf structs, isIndex_placesOf structs⟩

theorem add_ofStructs (overrides : TextMap String) (structs : List StructDescriptor)
    (stem signature : String) (fields : List StructField) :
    (ofStructs overrides structs).add stem signature fields =
      ofStructs overrides (structs ++
        [⟨(ofStructs overrides structs).nextName stem signature, signature, fields⟩]) :=
  StructRegistry.ext rfl rfl (placesOf_concat structs ⟨_, signature, fields⟩).symm

/-- A registry in which all signatures differ is the one that its structs make up. -/
theorem ofStructs_eq_self (h : registry.signatures.Nodup) :
    ofStructs registry.overrides registry.structs = registry := by
  refine StructRegistry.ext rfl rfl (TextMap.ext_get? fun signature => Option.ext fun place => ?_)
  have hmade : (ofStructs registry.overrides registry.structs).signatures.Nodup := h
  rw [get?_index_eq_some_iff h]
  exact get?_index_eq_some_iff hmade

end StructRegistry

end ContractBindings
