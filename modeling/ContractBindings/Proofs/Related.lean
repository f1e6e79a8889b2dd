import ContractBindings.Error
import Mathlib.Data.List.Forall2

/-!
# Lists related item by item

Two lists are related by `List.Forall₂` if they have the same length and their items are related in
pairs. A list that is read item by item is related so to its results.
-/

namespace ContractBindings

section Related

variable {α β : Type} {R : α → β → Prop} {items : List α}

/-- Of two lists that are related item by item, an item of the second one comes from one of the
first. -/
theorem exists_mem_of_forall₂ {others : List β} (h : List.Forall₂ R items others) {other : β}
    (hmem : other ∈ others) : ∃ item ∈ items, R item other := by
  induction h with
  | nil => exact absurd hmem List.not_mem_nil
  | cons hhead _ ih =>
    rcases List.mem_cons.mp hmem with rfl | hrest
    · exact ⟨_, List.mem_cons_self, hhead⟩
    · obtain ⟨item, hitem, hrelated⟩ := ih hrest
      exact ⟨item, List.mem_cons_of_mem _ hitem, hrelated⟩

/-- Of two lists that are related item by item, the last items are related. -/
theorem exists_getLast?_of_forall₂ {others : List β} (h : List.Forall₂ R items others) {last : α}
    (hlast : items.getLast? = some last) :
    ∃ other, others.getLast? = some other ∧ R last other := by
  obtain ⟨front, rfl⟩ := List.getLast?_eq_some_iff.mp hlast
  have hreversed := List.forall₂_reverse_iff.mpr h
  rw [List.reverse_concat'] at hreversed
  obtain ⟨other, rest, hrelated, -, hothers⟩ := List.forall₂_cons_left_iff.mp hreversed
  refine ⟨other, ?_, hrelated⟩
  rw [List.getLast?_eq_head?_reverse, hothers, List.head?_cons]

theorem getLast?_eq_none_of_forall₂ {others : List β} (h : List.Forall₂ R items others)
    (hlast : items.getLast? = none) : others.getLast? = none := by
  rw [List.getLast?_eq_none_iff] at hlast ⊢
  rw [hlast] at h
  exact List.forall₂_nil_left_iff.mp h

/-- A list is related to some other one if each of its items is related to something. -/
theorem exists_forall₂_iff :
    (∃ others, List.Forall₂ R items others) ↔ ∀ item ∈ items, ∃ other, R item other := by
  induction items with
  | nil => simp
  | cons item rest ih =>
    rw [List.forall_mem_cons, ← ih]
    constructor
    · rintro ⟨_, hrelated⟩
      obtain ⟨other, others, hhead, hrest, -⟩ := List.forall₂_cons_left_iff.mp hrelated
      exact ⟨⟨other, hhead⟩, others, hrest⟩
    · rintro ⟨⟨_, hhead⟩, ⟨_, hrest⟩⟩
      exact ⟨_, .cons hhead hrest⟩

/-- A list is related to that of the images of its items at their places. -/
theorem forall₂_mapIdx {f : ℕ → α → β} (h : ∀ place, ∀ item ∈ items, R item (f place item)) :
    List.Forall₂ R items (items.mapIdx f) := by
  rw [List.mapIdx_eq_zipIdx_map, List.forall₂_map_right_iff]
  nth_rewrite 1 [← List.zipIdx_map_fst 0 items]
  rw [List.forall₂_map_left_iff, List.forall₂_same]
  exact fun entry hentry => h entry.2 entry.1 (List.fst_mem_of_mem_zipIdx hentry)

/-- Two lists have the same images if and only if their items have in pairs. -/
theorem map_eq_map_iff {γ : Type} {f : α → γ} {g : β → γ} {others : List β} :
    items.map f = others.map g ↔ List.Forall₂ (fun a b => f a = g b) items others := by
  rw [← List.forall₂_eq_eq_eq, List.forall₂_map_left_iff, List.forall₂_map_right_iff]

/-- Items that are read without a fault are related to what is read from them. -/
theorem except_mapM_eq_ok_iff {ε : Type} {f : α → Except ε β}
    (h : ∀ item ∈ items, ∀ result, f item = .ok result ↔ R item result) {results : List β} :
    items.mapM f = .ok results ↔ List.Forall₂ R items results := by
  induction items generalizing results with
  | nil => simp [pure, Except.pure, eq_comm]
  | cons item rest ih =>
    rw [List.forall_mem_cons] at h
    simp only [List.mapM_cons, except_bind_eq_ok_iff, h.1, ih h.2, List.forall₂_cons_left_iff]
    constructor
    · rintro ⟨result, hresult, others, hothers, heq⟩
      exact ⟨result, others, hresult, hothers, (Except.ok.inj heq).symm⟩
    · rintro ⟨result, others, hresult, hothers, rfl⟩
      exact ⟨result, hresult, others, hothers, rfl⟩

end Related

end ContractBindings
