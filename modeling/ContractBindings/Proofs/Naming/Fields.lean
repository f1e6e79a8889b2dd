import ContractBindings.Proofs.Naming.Keys

/-!
# Names of record fields

A record has one field for each component, with names that are not empty and differ from each other
(`namesFields_fieldNames`). The name of a field is determined by the name of its component and by
the fields before it (`IsRightfulField`): it is made from the component's name where that gives
something new, and otherwise from the least number that gives something new, counted from the
field's own place. Numbers are not reserved: a component may have taken a numbered name already, and
a numbered name may be in the way of a later component.
-/

namespace ContractBindings

namespace Language

variable (language : Language)

/-! ### Numbered names -/

theorem numberedField_eq (j : Nat) :
    language.numberedField j = language.fieldName "field" ++ toString j :=
  language.identifier_append_digits "field" _ fun _ => isDigit_of_mem_toString

theorem numberedField_injective : Function.Injective language.numberedField := by
  intro i j h
  rw [numberedField_eq, numberedField_eq] at h
  exact append_toString_injective _ h

theorem numberedField_ne_empty (j : Nat) : language.numberedField j ≠ "" := by
  intro h
  rw [numberedField_eq, String.append_eq_empty_iff] at h
  have hword : language.fieldName "field" ≠ "" := by
    cases language <;> decide
  exact hword h.1

/-! ### The name of a field -/

/-- **Rightful** name of a field behind others: the name made from that of the component, if it is
not empty and new, and otherwise the new one with the least number from the field's own place on. -/
structure IsRightfulField (earlier : List String) (raw name : String) : Prop where
  /-- A name of its own is used where it can be. -/
  own : language.fieldName raw ≠ "" → language.fieldName raw ∉ earlier →
    name = language.fieldName raw
  /-- Otherwise a number is looked for, and every smaller one is taken. -/
  numbered : language.fieldName raw = "" ∨ language.fieldName raw ∈ earlier →
    ∃ j, earlier.length ≤ j ∧ name = language.fieldName ("field" ++ toString j) ∧
      name ∉ earlier ∧
      ∀ i, earlier.length ≤ i → i < j → language.fieldName ("field" ++ toString i) ∈ earlier

/-- The search for a number finds one that is not taken. -/
theorem isRightfulField_freshField (earlier : List String) (raw : String) :
    language.IsRightfulField earlier raw (language.freshField earlier raw) where
  own := by
    intro hne hnew
    rw [freshField, if_pos ⟨hne, hnew⟩]
  numbered := by
    intro hunusable
    have hown : ¬(language.fieldName raw ≠ "" ∧ language.fieldName raw ∉ earlier) := by
      rintro ⟨hne, hnew⟩
      exact hunusable.elim hne hnew
    rw [freshField, if_neg hown]
    have hrange := leastFrom_mem_range (fun j => decide (language.numberedField j ∉ earlier))
      earlier.length earlier.length
    obtain ⟨n, hlow, hhigh, hn⟩ :=
      exists_notMem_of_injective language.numberedField_injective earlier earlier.length
    have hpasses := @passes_leastFrom (fun j => decide (language.numberedField j ∉ earlier))
      earlier.length earlier.length n hlow hhigh (decide_eq_true hn)
    refine ⟨_, hrange.1, rfl, of_decide_eq_true hpasses, fun i hi hlt => ?_⟩
    have hfails := of_decide_eq_false (leastFrom_minimal hi hlt)
    exact not_not.mp hfails

namespace IsRightfulField

variable {language} {earlier : List String} {raw name : String}

theorem notMem (h : language.IsRightfulField earlier raw name) : name ∉ earlier := by
  by_cases hown : language.fieldName raw = "" ∨ language.fieldName raw ∈ earlier
  · obtain ⟨_, -, -, hnew, -⟩ := h.numbered hown
    exact hnew
  · rw [not_or] at hown
    rw [h.own hown.1 hown.2]
    exact hown.2

theorem ne_empty (h : language.IsRightfulField earlier raw name) : name ≠ "" := by
  by_cases hown : language.fieldName raw = "" ∨ language.fieldName raw ∈ earlier
  · obtain ⟨j, -, rfl, -⟩ := h.numbered hown
    exact language.numberedField_ne_empty j
  · rw [not_or] at hown
    rw [h.own hown.1 hown.2]
    exact hown.1

end IsRightfulField

/-! ### The names of a record -/

theorem length_fieldNamesAfter (used raws : List String) :
    (language.fieldNamesAfter used raws).length = raws.length := by
  induction raws generalizing used with
  | nil => rfl
  | cons raw rest ih => rw [fieldNamesAfter, List.length_cons, ih, List.length_cons]

@[simp]
theorem length_fieldNames (raws : List String) :
    (language.fieldNames raws).length = raws.length :=
  language.length_fieldNamesAfter [] raws

/-- The name of a field depends on its own name and on the names of the fields before it. -/
theorem getElem?_fieldNamesAfter (used raws : List String) (place : Nat) :
    (language.fieldNamesAfter used raws)[place]? = raws[place]?.map
      (language.freshField (used ++ (language.fieldNamesAfter used raws).take place)) := by
  induction raws generalizing used place with
  | nil => rfl
  | cons raw rest ih =>
    rw [fieldNamesAfter]
    cases place with
    | zero => simp
    | succ place =>
      rw [List.getElem?_cons_succ, List.getElem?_cons_succ, ih, List.take_succ_cons,
        List.append_assoc, List.singleton_append]

/-- Every name is new behind those before it, so that all names differ. -/
theorem nodup_fieldNamesAfter {used : List String} (raws : List String) (h : used.Nodup) :
    (used ++ language.fieldNamesAfter used raws).Nodup := by
  -- on the components: each adds its name to those used, which differ throughout
  induction raws generalizing used with
  | nil => simpa [fieldNamesAfter] using h
  | cons raw rest ih =>
    have hnew := (language.isRightfulField_freshField used raw).notMem
    have hused : (used ++ [language.freshField used raw]).Nodup := by
      rw [← List.concat_eq_append]
      exact h.concat hnew
    rw [fieldNamesAfter, List.append_cons]
    exact ih hused

/-- **Names for components**: one for each, in their order, neither empty nor repeated, and each the
rightful one behind those before it. -/
structure NamesFields (raws names : List String) : Prop where
  /-- There are as many names as components. -/
  length_eq : names.length = raws.length
  /-- No name is empty. -/
  ne_empty : ∀ name ∈ names, name ≠ ""
  /-- No name is there twice. -/
  nodup : names.Nodup
  /-- A name is determined by its component and the names before it. -/
  rightful : ∀ {place : Nat} {raw name : String}, raws[place]? = some raw →
    names[place]? = some name → language.IsRightfulField (names.take place) raw name

/-- **Names of a record**: they are rightful names for its components. -/
theorem namesFields_fieldNames (raws : List String) :
    language.NamesFields raws (language.fieldNames raws) := by
  have hrightful : ∀ {place : Nat} {raw name : String}, raws[place]? = some raw →
      (language.fieldNames raws)[place]? = some name →
      language.IsRightfulField ((language.fieldNames raws).take place) raw name := by
    intro place raw name hraw hname
    rw [fieldNames, language.getElem?_fieldNamesAfter, hraw, Option.map_some, List.nil_append,
      Option.some.injEq] at hname
    rw [← hname]
    exact language.isRightfulField_freshField _ raw
  refine ⟨language.length_fieldNames raws, fun name hname => ?_,
    language.nodup_fieldNamesAfter raws List.nodup_nil, hrightful⟩
  obtain ⟨place, hplace⟩ := List.mem_iff_getElem?.mp hname
  have hlt : place < raws.length := by
    rw [← language.length_fieldNames raws]
    exact (List.getElem?_eq_some_iff.mp hplace).1
  exact (hrightful (List.getElem?_eq_getElem hlt) hplace).ne_empty

end Language

end ContractBindings
