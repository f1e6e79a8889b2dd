/-!
# Cutting texts

Two ways to cut a text: `cutAtLast` at the last occurrence of a mark, and `afterStart?`
behind a given start.
-/

namespace ContractBindings

/-- The parts of a text before and after the last occurrence of a mark. -/
def cutAtLast (mark : Char) : List Char → Option (List Char × List Char)
  | [] => none
  | c :: rest =>
    match cutAtLast mark rest with
    | some (before, after) => some (c :: before, after)
    | none => if c = mark then some ([], rest) else none

/-- A text is cut nowhere exactly when the mark does not occur in it. -/
theorem cutAtLast_eq_none_iff {mark : Char} {text : List Char} :
    cutAtLast mark text = none ↔ mark ∉ text := by
  induction text with
  | nil => simp [cutAtLast]
  | cons c rest ih =>
    simp only [cutAtLast]
    cases h : cutAtLast mark rest with
    | none => simp [ih.mp h, eq_comm]
    | some parts =>
      have : mark ∈ rest := Decidable.byContradiction fun absent => by
        simp [ih.mpr absent] at h
      simp [this]

/-- The parts and the mark between them make up the text, and the second part is free of
the mark. -/
theorem eq_of_cutAtLast {mark : Char} {text before after : List Char}
    (h : cutAtLast mark text = some (before, after)) :
    text = before ++ mark :: after ∧ mark ∉ after := by
  induction text generalizing before with
  | nil => simp [cutAtLast] at h
  | cons c rest ih =>
    simp only [cutAtLast] at h
    cases tail : cutAtLast mark rest with
    | none =>
      rw [tail] at h
      by_cases same : c = mark
      · simp only [same, if_true, Option.some.injEq, Prod.mk.injEq] at h
        obtain ⟨rfl, rfl⟩ := h
        exact ⟨by rw [same]; rfl, cutAtLast_eq_none_iff.mp tail⟩
      · simp [same] at h
    | some parts =>
      obtain ⟨first, last⟩ := parts
      rw [tail] at h
      simp only [Option.some.injEq, Prod.mk.injEq] at h
      obtain ⟨rfl, rfl⟩ := h
      obtain ⟨whole, free⟩ := ih tail
      exact ⟨by rw [whole]; rfl, free⟩

/-- A text is cut at a mark that does not occur behind it. -/
theorem cutAtLast_append {mark : Char} {before after : List Char} (h : mark ∉ after) :
    cutAtLast mark (before ++ mark :: after) = some (before, after) := by
  induction before with
  | nil => rw [List.nil_append, cutAtLast, cutAtLast_eq_none_iff.mpr h, if_pos rfl]
  | cons c rest ih => rw [List.cons_append, cutAtLast, ih]

/-- The first part is shorter than the text. -/
theorem length_lt_of_cutAtLast {mark : Char} {text before after : List Char}
    (h : cutAtLast mark text = some (before, after)) : before.length < text.length := by
  rw [(eq_of_cutAtLast h).1, List.length_append, List.length_cons]
  omega

/-- What comes after the given start of a text, if the text starts so. -/
def afterStart? : (start text : List Char) → Option (List Char)
  | [], text => some text
  | s :: start, c :: text => if s = c then afterStart? start text else none
  | _ :: _, [] => none

/-- A text starts with `start` exactly when it is `start` and the rest behind it. -/
theorem afterStart?_eq_some_iff {start text rest : List Char} :
    afterStart? start text = some rest ↔ text = start ++ rest := by
  induction start generalizing text with
  | nil => simp [afterStart?]
  | cons s start ih =>
    cases text with
    | nil => simp [afterStart?]
    | cons c text =>
      by_cases same : s = c
      · simp [afterStart?, same, ih]
      · simp [afterStart?, same, Ne.symm same]

end ContractBindings
