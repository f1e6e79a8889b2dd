import ContractBindings.Naming.Snake
import ContractBindings.Proofs.Naming.Casing
import ContractBindings.Proofs.Naming.Identifiers

/-!
# Snake case in one pass

Snake case is made in two passes, each of which replaces the matches of a pattern
(`cutCapitalizedWords_eq_separateMatches`, `cutBeforeCapitals_eq_separateMatches`). A match consumes
what stands around a boundary between words, so that the first pass overlooks boundaries right
behind those that it has found; and the second pass reads a text in which there are underscores
already. Together they nevertheless follow a rule that looks at the neighbours of a capital only,
and sets one underscore or none (`snakeCase_eq_underscored`).

The reason is that the first pass consumes small letters at the end of a match. What it overlooks
is behind a small letter, where the second pass finds it, and what it has found is behind an
underscore, where the second pass finds nothing (`cutBehind_cutCapitalizedWords`).
-/

namespace ContractBindings

/-! ### Capitals -/

/-- A capital is no small letter and no digit. -/
theorem isSmallOrDigit_of_isCapital {c : Char} (h : isCapital c = true) :
    isSmallOrDigit c = false := by
  rw [isCapital_eq_isUpper] at h
  have halpha : c.isAlpha = true := by rw [Char.isAlpha, h, Bool.true_or]
  rw [isSmallOrDigit, isSmall_eq_isLower, Bool.eq_false_iff.mpr (Char.not_isLower_of_isUpper h),
    isDigit_of_isAlpha halpha, Bool.or_false]

theorem isCapital_of_isSmall {c : Char} (h : isSmall c = true) : isCapital c = false := by
  cases hc : isCapital c with
  | false => rfl
  | true =>
    have hnot := isSmallOrDigit_of_isCapital hc
    rw [isSmallOrDigit, h, Bool.true_or] at hnot
    cases hnot

/-! ### Replacing matches -/

/-- A text with an underscore between the two groups of every match of a pattern. A match is looked
for at every place from left to right, and behind a match the search goes on, so that matches do
not overlap: `consumed` characters still belong to the last one. -/
def separateMatches (groups? : List Char → Option (Char × List Char)) (consumed : Nat) :
    List Char → List Char
  | [] => []
  | c :: rest =>
    match consumed with
    | consumed + 1 => separateMatches groups? consumed rest
    | 0 =>
      match groups? (c :: rest) with
      | some (first, second) =>
        first :: '_' :: second ++ separateMatches groups? second.length rest
      | none => c :: separateMatches groups? 0 rest

/-- The groups of the longest match of `(.)([A-Z][a-z]+)` at the front of a text. -/
def capitalizedWord? : List Char → Option (Char × List Char)
  | x :: c :: rest =>
    if x ≠ '\n' ∧ isCapital c = true ∧ rest.takeWhile isSmall ≠ [] then
      some (x, c :: rest.takeWhile isSmall)
    else none
  | _ => none

/-- The groups of the match of `([a-z0-9])([A-Z])` at the front of a text. -/
def smallThenCapital? : List Char → Option (Char × List Char)
  | x :: c :: _ => if isSmallOrDigit x = true ∧ isCapital c = true then some (x, [c]) else none
  | _ => none

section Matches

variable {groups? : List Char → Option (Char × List Char)}

theorem separateMatches_append (word rest : List Char) :
    separateMatches groups? word.length (word ++ rest) = separateMatches groups? 0 rest := by
  induction word with
  | nil => rfl
  | cons c word ih => exact ih

theorem separateMatches_of_none {c : Char} {rest : List Char} (h : groups? (c :: rest) = none) :
    separateMatches groups? 0 (c :: rest) = c :: separateMatches groups? 0 rest := by
  simp only [separateMatches, h]

/-- Behind a match the search goes on. -/
theorem separateMatches_of_some {c : Char} {word rest : List Char}
    (h : groups? (c :: (word ++ rest)) = some (c, word)) :
    separateMatches groups? 0 (c :: (word ++ rest)) =
      c :: '_' :: (word ++ separateMatches groups? 0 rest) := by
  simp only [separateMatches, h, separateMatches_append, List.cons_append]

end Matches

/-! ### The two passes -/

/-- Whether a capitalized word begins a text: a capital that a small letter follows. -/
def startsWord : List Char → Bool
  | [] => false
  | c :: rest => isCapital c && rest.head?.any isSmall

theorem exists_of_startsWord {text : List Char} (h : startsWord text = true) :
    ∃ c s tail, text = c :: s :: tail ∧ isCapital c = true ∧ isSmall s = true := by
  match text with
  | [c] => simp [startsWord] at h
  | c :: s :: tail => exact ⟨c, s, tail, rfl, by simpa [startsWord] using h⟩

theorem cutCapitalizedWords_small {x : Char} (hx : isSmall x = true) (rest : List Char) :
    cutCapitalizedWords true (x :: rest) = x :: cutCapitalizedWords true rest := by
  rw [cutCapitalizedWords.eq_def]
  simp [hx]

/-- Behind the small letters of a word the search for boundaries goes on. -/
theorem cutCapitalizedWords_of_not_small {x : Char} (hx : isSmall x = false) (rest : List Char) :
    cutCapitalizedWords true (x :: rest) = cutCapitalizedWords false (x :: rest) := by
  rw [cutCapitalizedWords.eq_def, cutCapitalizedWords.eq_def]
  simp [hx]

theorem cutCapitalizedWords_boundary {x c s : Char} (hx : x ≠ '\n') (hc : isCapital c = true)
    (hs : isSmall s = true) (tail : List Char) :
    cutCapitalizedWords false (x :: c :: s :: tail) =
      x :: '_' :: c :: s :: cutCapitalizedWords true tail := by
  rw [cutCapitalizedWords.eq_def]
  simp [hx, hc, hs]

theorem cutCapitalizedWords_plain {x : Char} {rest : List Char}
    (h : ¬(x ≠ '\n' ∧ startsWord rest = true)) :
    cutCapitalizedWords false (x :: rest) = x :: cutCapitalizedWords false rest := by
  match rest with
  | [] => rfl
  | [c] => rfl
  | c :: s :: tail =>
    have hcut : ¬(x != '\n' && isCapital c && isSmall s) = true := by
      simpa [startsWord, and_assoc] using h
    rw [cutCapitalizedWords, Bool.false_and, if_neg Bool.false_ne_true, if_neg hcut]

/-- The small letters behind a boundary belong to the word. -/
theorem cutCapitalizedWords_true (text : List Char) :
    cutCapitalizedWords true text =
      text.takeWhile isSmall ++ cutCapitalizedWords false (text.dropWhile isSmall) := by
  induction text with
  | nil => rfl
  | cons x rest ih =>
    cases hx : isSmall x with
    | true =>
      rw [List.takeWhile_cons_of_pos hx, List.dropWhile_cons_of_pos hx, List.cons_append, ← ih,
        cutCapitalizedWords_small hx]
    | false =>
      have hneg : ¬isSmall x = true := Bool.eq_false_iff.mp hx
      rw [List.takeWhile_cons_of_neg hneg, List.dropWhile_cons_of_neg hneg, List.nil_append,
        cutCapitalizedWords_of_not_small hx]

/-- The first pattern matches where a character and a capitalized word begin the text. -/
theorem capitalizedWord?_eq_none {x : Char} {rest : List Char}
    (h : ¬(x ≠ '\n' ∧ startsWord rest = true)) : capitalizedWord? (x :: rest) = none := by
  match rest with
  | [] => rfl
  | [c] => exact if_neg fun hmatch => hmatch.2.2 rfl
  | c :: s :: tail =>
    refine if_neg fun ⟨hx, hc, hword⟩ => h ⟨hx, ?_⟩
    have hs : isSmall s = true := by
      by_contra hs
      exact hword (List.takeWhile_cons_of_neg hs)
    rw [startsWord, hc, List.head?_cons, Option.any_some, hs]
    rfl

/-- **The first pass** separates the matches of its pattern. -/
theorem cutCapitalizedWords_eq_separateMatches (text : List Char) :
    cutCapitalizedWords false text = separateMatches capitalizedWord? 0 text := by
  match text with
  | [] => rfl
  | x :: rest =>
    by_cases h : x ≠ '\n' ∧ startsWord rest = true
    · obtain ⟨c, s, tail, hrest, hc, hs⟩ := exists_of_startsWord h.2
      have hshorter : (tail.dropWhile isSmall).length < rest.length + 1 := by
        have := (List.dropWhile_sublist isSmall (l := tail)).length_le
        rw [hrest, List.length_cons, List.length_cons]
        omega
      have ih := cutCapitalizedWords_eq_separateMatches (tail.dropWhile isSmall)
      -- the match ends with the small letters that follow
      have hword : rest = c :: s :: tail.takeWhile isSmall ++ tail.dropWhile isSmall := by
        rw [hrest, List.cons_append, List.cons_append, List.takeWhile_append_dropWhile]
      have hmatch : capitalizedWord? (x :: rest) =
          some (x, c :: s :: tail.takeWhile isSmall) := by
        rw [hrest, capitalizedWord?, List.takeWhile_cons_of_pos hs]
        exact if_pos ⟨h.1, hc, List.cons_ne_nil _ _⟩
      have hcut : cutCapitalizedWords false (x :: rest) =
          x :: '_' :: (c :: s :: tail.takeWhile isSmall ++
            cutCapitalizedWords false (tail.dropWhile isSmall)) := by
        rw [hrest, cutCapitalizedWords_boundary h.1 hc hs, cutCapitalizedWords_true]
        rfl
      rw [hcut, ih]
      rw [hword] at hmatch ⊢
      exact (separateMatches_of_some hmatch).symm
    · rw [cutCapitalizedWords_plain h, separateMatches_of_none (capitalizedWord?_eq_none h),
        cutCapitalizedWords_eq_separateMatches rest]
termination_by text.length

/-- **The second pass** separates the matches of its pattern. -/
theorem cutBeforeCapitals_eq_separateMatches (text : List Char) :
    cutBeforeCapitals text = separateMatches smallThenCapital? 0 text := by
  fun_induction cutBeforeCapitals text with
  | case1 x c rest h ih =>
    have hmatch : smallThenCapital? (x :: ([c] ++ rest)) = some (x, [c]) :=
      if_pos (by simpa using h)
    rw [ih]
    exact (separateMatches_of_some hmatch).symm
  | case2 x c rest h ih =>
    have hnone : smallThenCapital? (x :: c :: rest) = none := if_neg (by simpa using h)
    rw [ih, separateMatches_of_none hnone]
  | case3 text hshort =>
    match text with
    | [] => rfl
    | [x] => rfl
    | x :: c :: rest => exact absurd rfl (hshort x c rest)

/-! ### One pass -/

/-- Whether a word begins inside a text at the given place: there is a capital, with a small letter
or a digit before it or a small letter behind it. -/
def opensWord (text : List Char) (place : Nat) : Bool :=
  decide (1 ≤ place) && text[place]?.any isCapital &&
    (text[place - 1]?.any isSmallOrDigit || text[place + 1]?.any isSmall)

/-- A text with an underscore before every word that begins inside it. -/
def underscored (text : List Char) : List Char :=
  text.zipIdx.flatMap fun (c, place) => if opensWord text place then ['_', c] else [c]

/-- Whether a word begins at `c`, with `before` in front of it, if anything, and `rest` behind. -/
def opensBetween (before : Option Char) (c : Char) (rest : List Char) : Bool :=
  before.isSome && isCapital c && (before.any isSmallOrDigit || rest.head?.any isSmall)

/-- This text character by character: `before` is the one in front, if there is one. -/
def underscoredAfter (before : Option Char) : List Char → List Char
  | [] => []
  | c :: rest =>
    (if opensBetween before c rest then ['_'] else []) ++ c :: underscoredAfter (some c) rest

theorem opensWord_length (front : List Char) (c : Char) (rest : List Char) :
    opensWord (front ++ c :: rest) front.length = opensBetween front.getLast? c rest := by
  have hself : (front ++ c :: rest)[front.length]? = some c := by simp
  have hbehind : (front ++ c :: rest)[front.length + 1]? = rest.head? := by
    rw [List.getElem?_append_right (Nat.le_add_right _ _), Nat.add_sub_cancel_left,
      List.getElem?_cons_succ, List.head?_eq_getElem?]
  rw [opensWord, hself, hbehind, opensBetween]
  rcases List.eq_nil_or_concat front with rfl | ⟨init, b, rfl⟩
  · rfl
  · simp

theorem flatMap_zipIdx_eq_underscoredAfter (front text : List Char) :
    ((text.zipIdx front.length).flatMap fun (c, place) =>
      if opensWord (front ++ text) place then ['_', c] else [c]) =
      underscoredAfter front.getLast? text := by
  induction text generalizing front with
  | nil => rfl
  | cons c rest ih =>
    have hrest := ih (front ++ [c])
    rw [List.length_append, List.length_singleton, List.append_assoc, List.singleton_append,
      List.getLast?_concat] at hrest
    rw [List.zipIdx_cons, List.flatMap_cons, hrest, underscoredAfter]
    dsimp only
    rw [opensWord_length]
    cases opensBetween front.getLast? c rest <;> rfl

theorem underscored_eq (text : List Char) : underscored text = underscoredAfter none text :=
  flatMap_zipIdx_eq_underscoredAfter [] text

/-! ### Both passes -/

/-- The second pass over a text behind the character `before`, if there is one. -/
def cutBehind (before : Option Char) (text : List Char) : List Char :=
  (if before.any isSmallOrDigit && text.head?.any isCapital then ['_'] else []) ++
    cutBeforeCapitals text

theorem cutBeforeCapitals_of_not_small {c : Char} (h : isSmallOrDigit c = false)
    (rest : List Char) : cutBeforeCapitals (c :: rest) = c :: cutBeforeCapitals rest := by
  cases rest with
  | nil => rfl
  | cons d rest => rw [cutBeforeCapitals, h, Bool.false_and, if_neg Bool.false_ne_true]

theorem cutBeforeCapitals_cons (c : Char) (rest : List Char) :
    cutBeforeCapitals (c :: rest) = c :: cutBehind (some c) rest := by
  cases rest with
  | nil => simp [cutBehind, cutBeforeCapitals]
  | cons d rest =>
    rw [cutBehind, cutBeforeCapitals, List.head?_cons, Option.any_some, Option.any_some]
    split
    · rename_i h
      rw [Bool.and_eq_true] at h
      rw [cutBeforeCapitals_of_not_small (isSmallOrDigit_of_isCapital h.2), List.singleton_append]
    · rfl

theorem cutBehind_cons (before : Option Char) (c : Char) (rest : List Char) :
    cutBehind before (c :: rest) =
      (if before.any isSmallOrDigit && isCapital c then ['_'] else []) ++
        c :: cutBehind (some c) rest := by
  rw [cutBehind, cutBeforeCapitals_cons, List.head?_cons, Option.any_some]

/-- At the beginning, behind a small letter, and where no capitalized word begins, it is enough to
look at the character in front. -/
theorem opensBetween_eq {before : Option Char} {c : Char} {rest : List Char}
    (h : before = none ∨ before.any isSmall = true ∨ startsWord (c :: rest) = false) :
    opensBetween before c rest = (before.any isSmallOrDigit && isCapital c) := by
  rcases h with rfl | h | h
  · rfl
  · obtain ⟨b, rfl, hb⟩ := (Option.any_eq_true _ _).mp h
    simp [opensBetween, isSmallOrDigit, hb]
  · rw [startsWord] at h
    cases before with
    | none => rfl
    | some b =>
      rw [opensBetween, Bool.and_or_distrib_left, Bool.and_assoc _ _ (rest.head?.any isSmall), h,
        Bool.and_false, Bool.or_false, Option.isSome_some, Bool.true_and, Bool.and_comm]

/-- **Both passes** together underscore a text without line feeds. The invariant is about the place
that the first pass has come to: there it has set no underscore, which is right for the first pass
only at the beginning, behind a small letter, and where no capitalized word begins. `inWord` means
that small letters to come belong to a match. -/
theorem cutBehind_cutCapitalizedWords {inWord : Bool} {before : Option Char} {text : List Char}
    (hline : '\n' ∉ text)
    (hbefore : before = none ∨ before.any isSmall = true ∨ startsWord text = false) :
    cutBehind before (cutCapitalizedWords inWord text) = underscoredAfter before text := by
  match text with
  | [] => simp [cutBehind, cutCapitalizedWords, cutBeforeCapitals, underscoredAfter]
  | x :: rest =>
    obtain ⟨hx, hrest⟩ := not_or.mp (List.mem_cons.not.mp hline)
    rw [underscoredAfter, opensBetween_eq hbefore]
    by_cases hsmall : inWord = true ∧ isSmall x = true
    · obtain ⟨rfl, hsmall⟩ := hsmall
      have ih : cutBehind (some x) (cutCapitalizedWords true rest) =
          underscoredAfter (some x) rest :=
        cutBehind_cutCapitalizedWords hrest (.inr (.inl hsmall))
      rw [cutCapitalizedWords_small hsmall, cutBehind_cons, ih]
    · have hfalse : cutCapitalizedWords inWord (x :: rest) =
          cutCapitalizedWords false (x :: rest) := by
        cases inWord with
        | false => rfl
        | true => exact cutCapitalizedWords_of_not_small (by simpa using hsmall) rest
      rw [hfalse]
      by_cases hcut : startsWord rest = true
      · obtain ⟨c, s, tail, hwordRest, hc, hs⟩ := exists_of_startsWord hcut
        have hshorter : tail.length < rest.length + 1 := by simp [hwordRest]; omega
        have hlineTail : '\n' ∉ tail := fun h => hrest (by simp [hwordRest, h])
        have ih : cutBehind (some s) (cutCapitalizedWords true tail) =
            underscoredAfter (some s) tail :=
          cutBehind_cutCapitalizedWords hlineTail (.inr (.inl hs))
        -- an underscore between the first two of these characters, and none next to them
        have hopens : opensBetween (some x) c (s :: tail) = true := by
          simp [opensBetween, hc, hs]
        have hcloses : opensBetween (some c) s tail = false := by
          simp [opensBetween, isCapital_of_isSmall hs]
        have hfirst : isCapital '_' = false := by decide
        have hsecond : isSmallOrDigit '_' = false := by decide
        rw [hwordRest, cutCapitalizedWords_boundary (Ne.symm hx) hc hs, underscoredAfter,
          underscoredAfter, hopens, hcloses, ← ih]
        simp [cutBehind_cons, hfirst, hsecond, isSmallOrDigit_of_isCapital hc]
      · have ih : cutBehind (some x) (cutCapitalizedWords false rest) =
            underscoredAfter (some x) rest :=
          cutBehind_cutCapitalizedWords hrest (.inr (.inr (Bool.eq_false_iff.mpr hcut)))
        rw [cutCapitalizedWords_plain (fun h => hcut h.2), cutBehind_cons, ih]
termination_by text.length

/-! ### Small letters -/

/-- Lowering a basic Latin text lowers its characters. -/
theorem lowerText_of_isBasicLatin {text : List Char} (h : IsBasicLatin text) :
    lowerText text = text.map Char.toLower := by
  suffices hafter : ∀ before, lowerAfter before text = text.map Char.toLower from hafter []
  induction text with
  | nil => exact fun _ => rfl
  | cons c rest ih =>
    intro before
    obtain ⟨hlow, hrest⟩ := List.forall_mem_cons.mp h
    have hsigma : (c == 'Σ') = false := by
      refine beq_eq_false_iff_ne.mpr ?_
      rintro rfl
      exact absurd hlow (by decide)
    rw [lowerAfter, hsigma, if_neg Bool.false_ne_true, lowerChar_of_basicLatin hlow, ih hrest,
      List.singleton_append, List.map_cons]

theorem isBasicLatin_of_isWordText {text : List Char} (h : IsWordText text) :
    IsBasicLatin text := by
  intro c hc
  rcases h c hc with halphanum | rfl
  · exact lt_of_isAlphanum halphanum
  · decide

/-- A word that begins is set apart by an underscore, and nothing else is added. -/
theorem mem_underscoredAfter {before : Option Char} {text : List Char} {c : Char}
    (h : c ∈ underscoredAfter before text) : c = '_' ∨ c ∈ text := by
  induction text generalizing before with
  | nil => cases h
  | cons d rest ih =>
    rw [underscoredAfter, List.mem_append] at h
    rcases h with h | h
    · split at h
      · exact .inl (List.mem_singleton.mp h)
      · cases h
    · rcases List.mem_cons.mp h with rfl | h
      · exact .inr List.mem_cons_self
      · exact (ih h).imp_right (List.mem_cons_of_mem d)

theorem isWordText_underscoredAfter {text : List Char} (h : IsWordText text) :
    IsWordText (underscoredAfter none text) := by
  intro c hc
  exact (mem_underscoredAfter hc).elim .inr (h c)

/-- **Snake case** of word characters: words are set apart in one pass. -/
theorem snakeCase_of_isWordText {name : String} (h : IsWordText name.toList) :
    snakeCase name = .ofList ((underscoredAfter none name.toList).map Char.toLower) := by
  have hline : '\n' ∉ name.toList := fun hmem => by
    rcases h _ hmem with h | h <;> exact absurd h (by decide)
  have hpasses : cutBeforeCapitals (cutCapitalizedWords false name.toList) =
      underscoredAfter none name.toList :=
    cutBehind_cutCapitalizedWords hline (.inl rfl)
  have hlow := isBasicLatin_of_isWordText (isWordText_underscoredAfter h)
  rw [snakeCase, hpasses, lowerText_of_isBasicLatin hlow]

/-- **Snake case in one pass**: replacing the matches of the two patterns, one after the other, and
lowering the text sets an underscore before every word that begins inside the name, and no other,
and lowers each character. -/
theorem snakeCase_eq_underscored {name : String} (h : IsWordText name.toList) :
    snakeCase name = .ofList (lowerText (separateMatches smallThenCapital? 0
      (separateMatches capitalizedWord? 0 name.toList))) ∧
    snakeCase name = .ofList ((underscored name.toList).map Char.toLower) := by
  refine ⟨?_, ?_⟩
  · rw [snakeCase, cutBeforeCapitals_eq_separateMatches, cutCapitalizedWords_eq_separateMatches]
  · rw [snakeCase_of_isWordText h, underscored_eq]

/-- Matches that abut, digits, acronyms and underscores. -/
theorem snakeCase_eq_underscored_abutting :
    IsWordText "aBCdHTTPServer2XyZ_Ab".toList ∧
      snakeCase "aBCdHTTPServer2XyZ_Ab" = "a_b_cd_http_server2_xy_z__ab" := by
  have h : IsWordText "aBCdHTTPServer2XyZ_Ab".toList := by decide
  exact ⟨h, (snakeCase_eq_underscored h).2.trans (by decide)⟩

end ContractBindings
