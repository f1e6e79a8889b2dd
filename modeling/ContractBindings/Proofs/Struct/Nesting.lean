import ContractBindings.Proofs.Struct.Faults

/-!
# Mapping nested types

A type is an innermost type inside some number of array and slice layers (`AbiType.depth`). Mapping
it maps the innermost type and lays the layers around the bound type of that, from the inside out
(`yields_mapType_iff`), so that it is enough to know how each language writes one layer. For an
elementary type inside, mapping depends on no registry and changes none
(`yields_mapType_of_elementary_iff`).
-/

namespace ContractBindings

/-! ### Layers -/

namespace AbiType

/-- The number of array and slice layers of a type. -/
def depth : AbiType → Nat
  | array element _ => element.depth + 1
  | slice element => element.depth + 1
  | _ => 0

/-- An innermost type is elementary unless it is a tuple. -/
theorem exists_innermost_eq {type : AbiType} (h : type.innermost.isTuple = false) :
    ∃ kind, type.innermost = elementary kind := by
  induction type using AbiType.induct with
  | elementary kind => exact ⟨kind, rfl⟩
  | array element size ih => exact ih h
  | slice element ih => exact ih h
  | tuple fields ih => cases h

end AbiType

/-- The bound type of a type, given that of its innermost type. -/
def Language.nest (language : Language) : AbiType → String → String
  | .array element size, inner => language.arrayType (language.nest element inner) size
  | .slice element, inner => language.sliceType (language.nest element inner)
  | _, inner => inner

/-! ### Mapping -/

section Mapping

variable {language : Language} {type : AbiType} {kind : Elementary} {bound : String}
  {before after : StructRegistry}

/-- Rewriting the result of a computation leaves the registry to it. -/
theorem yields_bind_pure_iff {α β : Type} {x : Resolve α} {f : α → β} {b : β} :
    (x >>= fun a => pure (f a)).Yields before b after ↔
      ∃ a, x.Yields before a after ∧ f a = b := by
  simp only [Resolve.yields_bind, Resolve.yields_pure]
  constructor
  · rintro ⟨a, _, hrun, rfl, rfl⟩
    exact ⟨a, hrun, rfl⟩
  · rintro ⟨a, hrun, rfl⟩
    exact ⟨a, after, hrun, rfl, rfl⟩

/-- Without records, just the types with no tuple inside their layers are mapped. -/
theorem exists_yields_mapType_iff (hrecords : language.hasRecords = false) (h : type.IsLegal)
    (before : StructRegistry) :
    (∃ bound after, (mapType language type).Yields before bound after) ↔
      type.innermost.isTuple = false := by
  have hfault : FailsAs (mapType language type) (language.tupleFault? type) := failsAs_mapType h
  rw [← Language.tupleFault?_eq_none_iff hrecords]
  constructor
  · rintro ⟨bound, after, hrun⟩
    exact hfault.eq_none_of_yields hrun
  · intro hnone
    exact (hnone ▸ hfault).exists_yields before

/-- **Mapping through layers**: only the innermost type takes part in the registry. -/
theorem yields_mapType_iff :
    (mapType language type).Yields before bound after ↔
      ∃ inner, (mapType language type.innermost).Yields before inner after ∧
        language.nest type inner = bound := by
  induction type using AbiType.induct generalizing bound with
  | elementary kind => simp [AbiType.innermost, Language.nest]
  | array element size ih =>
    rw [mapType, yields_bind_pure_iff]
    simp only [ih, exists_exists_and_eq_and, AbiType.innermost, Language.nest]
  | slice element ih =>
    rw [mapType, yields_bind_pure_iff]
    simp only [ih, exists_exists_and_eq_and, AbiType.innermost, Language.nest]
  | tuple fields ih => simp [AbiType.innermost, Language.nest]

theorem yields_mapType_elementary_iff :
    (mapType language (.elementary kind)).Yields before bound after ↔
      kind.IsLegal ∧ bound = language.elementaryName kind ∧ before = after := by
  have hlegal : ∀ {checked}, kind.checkWidth = .ok checked ↔ kind.IsLegal ∧ checked = kind :=
    Elementary.checkWidth_eq_ok_iff
  change (language.elementaryType kind, before) = (.ok bound, after) ↔ _
  rw [Language.elementaryType, Prod.mk.injEq]
  cases hwidth : kind.checkWidth with
  | ok checked =>
    obtain ⟨hkind, rfl⟩ := hlegal.mp hwidth
    simp only [Except.ok.injEq, and_iff_right hkind, eq_comm (a := bound)]
  | error fault =>
    refine iff_of_false (fun h => ?_) fun h => ?_
    · cases h.1
    · rw [hlegal.mpr ⟨h.1, rfl⟩] at hwidth
      cases hwidth

/-- Mapping a type with an elementary type inside its layers leaves the registry as it is. -/
theorem yields_mapType_of_elementary_iff (h : type.innermost = .elementary kind) :
    (mapType language type).Yields before bound after ↔
      kind.IsLegal ∧ bound = language.nest type (language.elementaryName kind) ∧
        before = after := by
  rw [yields_mapType_iff, h]
  simp only [yields_mapType_elementary_iff]
  constructor
  · rintro ⟨_, ⟨hkind, rfl, rfl⟩, rfl⟩
    exact ⟨hkind, rfl, rfl⟩
  · rintro ⟨hkind, rfl, rfl⟩
    exact ⟨_, ⟨hkind, rfl, rfl⟩, rfl⟩

end Mapping

end ContractBindings
