import ContractBindings.Proofs.Struct.Requests

/-!
# Registries without custom names

One registry may serve requests for both languages in turn (`StructRegistry.IsServed`). If it was
given no custom names, its structs are called by their numbers, each behind the stem of the language
that it was requested for (`IsServed.isNumbered`). So the name that a tuple is mapped to is always a
stem with a number behind it (`exists_numbered_of_yields`).
-/

namespace ContractBindings

namespace StructRegistry

variable {language : Language} {overrides : TextMap String}
  {registry before after : StructRegistry}

/-- **Served** registry: it was given some custom names, and has served requests for any languages
since then, with or without success. -/
inductive IsServed (overrides : TextMap String) : StructRegistry → Prop
  /-- There were no requests. -/
  | start : IsServed overrides (withOverrides overrides)
  /-- There was one more request. -/
  | next {registry : StructRegistry} (h : IsServed overrides registry) (language : Language)
      (request : RegistryRequest) : IsServed overrides ((request.run language).outcome registry).2

/-- Mapping a type is one more request. -/
theorem IsServed.of_yields {type : AbiType} {bound : String} (h : IsServed overrides before)
    (hrun : (mapType language type).Yields before bound after) : IsServed overrides after := by
  have hnext := h.next language (.map type)
  rwa [RegistryRequest.run, hrun] at hnext

/-- **Numbered** structs: no names were given, and a struct is called by its place behind a stem. -/
structure IsNumbered (registry : StructRegistry) : Prop where
  /-- There are no custom names. -/
  overrides : registry.overrides = .empty
  /-- The stem may be that of either language. -/
  name : ∀ {place : Nat} {struct : StructDescriptor}, registry.structs[place]? = some struct →
    ∃ language : Language, struct.name = language.structStem ++ toString place

theorem isNumbered_empty : empty.IsNumbered where
  overrides := rfl
  name := fun h => nomatch h

theorem IsNumbered.step {fields : TupleFields} (h : before.IsNumbered)
    (hstep : AddsStruct language fields before after) : after.IsNumbered := by
  obtain ⟨-, boundTypes, -, rfl⟩ := hstep
  refine ⟨h.overrides, fun {place struct} hplace => ?_⟩
  rcases getElem?_structs_add hplace with hbefore | ⟨rfl, rfl⟩
  · exact h.name hbefore
  · refine ⟨language, ?_⟩
    rw [nextName, h.overrides]
    rfl

theorem IsNumbered.growsBy {tuples : List TupleFields} (h : before.IsNumbered)
    (hgrowth : before.GrowsBy language tuples after) : after.IsNumbered := by
  induction hgrowth with
  | refl => exact h
  | tail _ hstep ih =>
    obtain ⟨_, -, hstep⟩ := hstep
    exact ih.step hstep

/-- **Requests keep structs numbered**, for whichever languages they are. -/
theorem IsServed.isNumbered (h : IsServed .empty registry) : registry.IsNumbered := by
  induction h with
  | start => exact isNumbered_empty
  | next _ language request ih => exact ih.growsBy ((request.grows_run language).registry _)

/-- A tuple is mapped to a stem with a number behind it. -/
theorem exists_numbered_of_yields {fields : TupleFields} {name : String}
    (h : IsServed .empty before)
    (hrun : (mapType language (.tuple fields)).Yields before name after) :
    ∃ (other : Language) (n : Nat), name = other.structStem ++ toString n := by
  have hknown := (grows_mapType language (.tuple fields)).result hrun (.refl after)
  obtain ⟨struct, hfound, rfl⟩ := Option.map_eq_some_iff.mp hknown
  obtain ⟨place, hplace⟩ := List.mem_iff_getElem?.mp (of_get?_eq_some hfound).1
  obtain ⟨other, hname⟩ := (h.of_yields hrun).isNumbered.name hplace
  exact ⟨other, place, hname⟩

end StructRegistry

end ContractBindings
