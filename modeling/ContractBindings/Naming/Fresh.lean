/-!
# Fresh names by counting

A name that is taken gives way to a numbered one. `leastFrom` counts until a number passes a
test, and is told in advance how many numbers can fail. When `taken` names are in use and
numbered names differ from each other, at most as many numbers fail as there are names taken.
-/

namespace ContractBindings

/-- The least number from `start` on that passes the test, if fewer than `failures + 1`
numbers from `start` on fail it. -/
def leastFrom (passes : Nat → Bool) (start : Nat) : (failures : Nat) → Nat
  | 0 => start
  | failures + 1 => if passes start then start else leastFrom passes (start + 1) failures

/-- No number from `start` up to the result passes. -/
theorem leastFrom_minimal {passes : Nat → Bool} {start failures j : Nat} (low : start ≤ j)
    (high : j < leastFrom passes start failures) : passes j = false := by
  induction failures generalizing start with
  | zero => simp only [leastFrom] at high; omega
  | succ failures ih =>
    simp only [leastFrom] at high
    split at high
    · omega
    · rename_i fails
      rcases Nat.lt_or_eq_of_le low with h | h
      · exact ih h high
      · simpa [← h] using fails

/-- The result is from `start` up to `start + failures`. -/
theorem leastFrom_mem_range (passes : Nat → Bool) (start failures : Nat) :
    start ≤ leastFrom passes start failures ∧
      leastFrom passes start failures ≤ start + failures := by
  induction failures generalizing start with
  | zero => simp [leastFrom]
  | succ failures ih =>
    simp only [leastFrom]
    split
    · omega
    · have := ih (start + 1)
      omega

/-- The result passes if any number from `start` up to `start + failures` does. -/
theorem passes_leastFrom {passes : Nat → Bool} {start failures j : Nat} (low : start ≤ j)
    (high : j ≤ start + failures) (h : passes j = true) :
    passes (leastFrom passes start failures) = true := by
  induction failures generalizing start with
  | zero =>
    have : j = start := by omega
    simpa [leastFrom, ← this] using h
  | succ failures ih =>
    simp only [leastFrom]
    split
    · assumption
    · rename_i fails
      rcases Nat.lt_or_eq_of_le low with hlt | heq
      · exact ih hlt (by omega)
      · exact absurd (heq ▸ h) fails

end ContractBindings
