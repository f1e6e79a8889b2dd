import ContractBindings.Proofs.Naming.SnakeCase

/-!
# From snake case to camel case and back

A name in snake case that is capitalized and put into snake case again may have fewer underscores
than before, since camel case shows a boundary between words by a capital only. It keeps them
exactly if there is a word in front of each and a letter behind it, and the capital of this letter
stands out: behind a digit, behind a word of two characters or more, or in front of a second letter
(`snakeCase_capitalize_snakeCase_iff`).
-/

namespace ContractBindings

/-! ### Boundaries in camel case -/

/-- Whether camel case leaves a small letter or digit at the end of a text: a digit is there, or a
word of two characters or more, of which only the first can be a capital. -/
def endsVisibly (front : List Char) : Bool :=
  front.getLast?.any Char.isDigit ||
    (front.getLast?.any (· ≠ '_') && front.dropLast.getLast?.any (· ≠ '_'))

/-- **Boundary** between words that camel case shows, given by what is in front of the underscore
and what is behind it. -/
structure ShowsBoundary (front back : List Char) : Prop where
  /-- There is something in front. -/
  front_ne_nil : front ≠ []
  /-- A letter comes first behind it, which becomes a capital. -/
  letter : back.head?.any isSmall = true
  /-- The capital stands out on one side. -/
  visible : endsVisibly front = true ∨ back.tail.head?.any isSmall = true

/-- Whether camel case shows every boundary in `rest`, which comes behind `front`. -/
def KeepsBoundaries (front rest : List Char) : Prop :=
  ∀ mid back, rest = mid ++ '_' :: back → ShowsBoundary (front ++ mid) back

theorem endsVisibly_concat (front : List Char) (c : Char) :
    endsVisibly (front ++ [c]) =
      (c.isDigit || (decide (c ≠ '_') && front.getLast?.any (· ≠ '_'))) := by
  rw [endsVisibly, List.getLast?_concat, List.dropLast_concat]
  rfl

theorem showsBoundary_cons_iff {front rest : List Char} {c : Char} (hfront : front ≠ []) :
    ShowsBoundary front (c :: rest) ↔
      isSmall c = true ∧ (endsVisibly front || rest.head?.any isSmall) = true := by
  rw [Bool.or_eq_true]
  exact ⟨fun h => ⟨h.letter, h.visible⟩, fun ⟨hletter, hvisible⟩ => ⟨hfront, hletter, hvisible⟩⟩

theorem keepsBoundaries_nil (front : List Char) : KeepsBoundaries front [] := by
  intro mid back h
  simp at h

theorem keepsBoundaries_cons {front rest : List Char} {c : Char} :
    KeepsBoundaries front (c :: rest) ↔
      (c = '_' → ShowsBoundary front rest) ∧ KeepsBoundaries (front ++ [c]) rest := by
  constructor
  · intro h
    refine ⟨?_, fun mid back hrest => ?_⟩
    · rintro rfl
      simpa using h [] rest rfl
    · rw [List.append_assoc, List.singleton_append]
      exact h (c :: mid) back (by rw [hrest, List.cons_append])
  · rintro ⟨hfirst, hrest⟩ mid back hsplit
    cases mid with
    | nil =>
      obtain ⟨rfl, rfl⟩ := List.cons.inj hsplit
      rw [List.append_nil]
      exact hfirst rfl
    | cons d mid =>
      obtain ⟨rfl, htail⟩ := List.cons.inj hsplit
      have hbehind := hrest mid back htail
      rwa [List.append_assoc, List.singleton_append] at hbehind

/-! ### Texts in snake case -/

/-- Text in **snake case**: small letters, digits and underscores. -/
def IsSnakeText (text : List Char) : Prop := ∀ c ∈ text, isSmallOrDigit c = true ∨ c = '_'

theorem ne_underscore_of_isSmallOrDigit {c : Char} (h : isSmallOrDigit c = true) : c ≠ '_' := by
  rintro rfl
  exact absurd h (by decide)

theorem isUnderscore_of_isSmallOrDigit {c : Char} (h : isSmallOrDigit c = true) :
    isUnderscore c = false :=
  beq_eq_false_iff_ne.mpr (ne_underscore_of_isSmallOrDigit h)

theorem isCapital_of_isSmallOrDigit {c : Char} (h : isSmallOrDigit c = true) :
    isCapital c = false := by
  refine Bool.eq_false_iff.mpr fun hc => ?_
  rw [isSmallOrDigit_of_isCapital hc] at h
  cases h

theorem isSmallOrDigit_of_isSmall {c : Char} (h : isSmall c = true) : isSmallOrDigit c = true := by
  rw [isSmallOrDigit, h, Bool.true_or]

theorem isAlpha_of_isSmall {c : Char} (h : isSmall c = true) : c.isAlpha = true := by
  rw [Char.isAlpha, ← isSmall_eq_isLower, h, Bool.or_true]

theorem toLower_of_isSmallOrDigit {c : Char} (h : isSmallOrDigit c = true) : c.toLower = c := by
  refine Char.toLower_eq_of_not_isUpper ?_
  rw [← isCapital_eq_isUpper, isCapital_of_isSmallOrDigit h]
  exact Bool.false_ne_true

theorem isAlphanum_of_isSmallOrDigit {c : Char} (h : isSmallOrDigit c = true) :
    c.isAlphanum = true := by
  rw [isSmallOrDigit, Bool.or_eq_true] at h
  rw [Char.isAlphanum, Bool.or_eq_true]
  exact h.imp_left isAlpha_of_isSmall

/-- Lowering a letter or digit gives a small letter or digit. -/
theorem isSmallOrDigit_toLower {c : Char} (h : c.isAlphanum = true) :
    isSmallOrDigit c.toLower = true := by
  rw [isSmallOrDigit, isSmall_eq_isLower, Char.isLower_toLower_eq_isAlpha]
  cases halpha : c.isAlpha with
  | false =>
    rw [Char.isAlphanum, halpha, Bool.false_or] at h
    rw [show c.toLower = c from Language.java.letterCase_eq_self halpha, h, Bool.or_true]
  | true => rw [Bool.true_or]

theorem toLower_toUpper_of_isSmallOrDigit {c : Char} (h : isSmallOrDigit c = true) :
    c.toUpper.toLower = c := by
  rw [Char.toLower_toUpper_eq_toLower, toLower_of_isSmallOrDigit h]

theorem isCapital_toUpper {c : Char} (h : isSmall c = true) : isCapital c.toUpper = true := by
  rw [isCapital_eq_isUpper, Char.isUpper_toUpper_eq_isAlpha, isAlpha_of_isSmall h]

theorem isSmall_toUpper (c : Char) : isSmall c.toUpper = false := by
  rw [isSmall_eq_isLower, Char.isLower_toUpper_eq_false]

/-- Capitals are letters, and digits have none. -/
theorem isSmallOrDigit_toUpper (c : Char) : isSmallOrDigit c.toUpper = c.isDigit := by
  rw [isSmallOrDigit, isSmall_toUpper, Bool.false_or]
  cases halpha : c.isAlpha with
  | false => rw [show c.toUpper = c from Language.golang.letterCase_eq_self halpha]
  | true =>
    have hupper : c.toUpper.isAlpha = true := by rw [Char.isAlpha_toUpper_eq_isAlpha, halpha]
    rw [isDigit_of_isAlpha hupper, isDigit_of_isAlpha halpha]

theorem IsSnakeText.isWordText {text : List Char} (h : IsSnakeText text) : IsWordText text :=
  fun c hc => (h c hc).imp_left isAlphanum_of_isSmallOrDigit

theorem IsSnakeText.isBasicLatin {text : List Char} (h : IsSnakeText text) : IsBasicLatin text :=
  isBasicLatin_of_isWordText h.isWordText

/-- The first character behind is a small letter in camel case exactly if it is one without an
underscore in front of it. -/
theorem any_isSmall_head?_joinWords {text : List Char} (h : IsSnakeText text) :
    (joinWords isUnderscore false text).head?.any isSmall = text.head?.any isSmall ∧
      (joinWords isUnderscore true text).head?.any isSmall = false := by
  induction text with
  | nil => exact ⟨rfl, rfl⟩
  | cons c rest ih =>
    obtain ⟨hc, hrest⟩ := List.forall_mem_cons.mp h
    rcases hc with hc | rfl
    · have hlow := lt_of_isAlphanum (isAlphanum_of_isSmallOrDigit hc)
      rw [joinWords, joinWords, isUnderscore_of_isSmallOrDigit hc, if_neg Bool.false_ne_true,
        if_pos rfl, upperChar_of_basicLatin hlow]
      exact ⟨rfl, isSmall_toUpper c⟩
    · exact ⟨(ih hrest).2, (ih hrest).2⟩

/-! ### Camel case in snake case -/

/-- A text in camel case behind the character `before`, put into snake case. -/
def snakeAfter (before : Char) (raise : Bool) (text : List Char) : List Char :=
  (underscoredAfter (some before) (joinWords isUnderscore raise text)).map Char.toLower

/-- In a camel form no underscore comes back by lowering a character. -/
theorem IsCamelForm.toLower_ne {form text : List Char} (h : IsCamelForm form text) {c : Char}
    (hc : c ∈ form) : c.toLower ≠ '_' := by
  refine beq_eq_false_iff_ne.mp ?_
  exact (Language.java.isUnderscore_letterCase c).trans (h.isUnderscore_eq_false c hc)

section SnakeAfter

variable {c : Char} {text : List Char} (before : Char)

theorem snakeAfter_underscore (raise : Bool) (text : List Char) :
    snakeAfter before raise ('_' :: text) = snakeAfter before true text :=
  rfl

/-- A small letter or digit stays. -/
theorem map_toLower_underscoredAfter_cons (hc : isSmallOrDigit c = true) (text : List Char) :
    (underscoredAfter (some before) (c :: text)).map Char.toLower =
      c :: (underscoredAfter (some c) text).map Char.toLower := by
  have hcloses : opensBetween (some before) c text = false := by
    rw [opensBetween, isCapital_of_isSmallOrDigit hc, Bool.and_false, Bool.false_and]
  rw [underscoredAfter, hcloses, if_neg Bool.false_ne_true, List.nil_append, List.map_cons,
    toLower_of_isSmallOrDigit hc]

theorem snakeAfter_cons (hc : isSmallOrDigit c = true) (text : List Char) :
    snakeAfter before false (c :: text) = c :: snakeAfter c false text := by
  rw [snakeAfter, joinWords, isUnderscore_of_isSmallOrDigit hc, if_neg Bool.false_ne_true,
    if_neg Bool.false_ne_true, List.singleton_append, map_toLower_underscoredAfter_cons before hc,
    snakeAfter]

/-- A digit has no capital form. -/
theorem snakeAfter_digit (hc : c.isDigit = true) (text : List Char) :
    snakeAfter before true (c :: text) = c :: snakeAfter c false text := by
  have hword : isSmallOrDigit c = true := by rw [isSmallOrDigit, hc, Bool.or_true]
  rw [snakeAfter, joinWords, isUnderscore_of_isDigit hc, if_neg Bool.false_ne_true, if_pos rfl,
    upperChar_of_isDigit hc, List.singleton_append, map_toLower_underscoredAfter_cons before hword,
    snakeAfter]

/-- A letter becomes a capital, which comes behind an underscore if it stands out. -/
theorem snakeAfter_letter (hc : isSmall c = true) (h : IsSnakeText text) :
    snakeAfter before true (c :: text) =
      (if isSmallOrDigit before || text.head?.any isSmall then ['_'] else []) ++
        c :: snakeAfter c.toUpper false text := by
  have hword := isSmallOrDigit_of_isSmall hc
  have hlow := lt_of_isAlphanum (isAlphanum_of_isSmallOrDigit hword)
  have hopens : opensBetween (some before) c.toUpper (joinWords isUnderscore false text) =
      (isSmallOrDigit before || text.head?.any isSmall) := by
    rw [opensBetween, isCapital_toUpper hc, (any_isSmall_head?_joinWords h).1]
    rfl
  rw [snakeAfter, joinWords, isUnderscore_of_isSmallOrDigit hword, if_neg Bool.false_ne_true,
    if_pos rfl, upperChar_of_basicLatin hlow, List.singleton_append, underscoredAfter, hopens,
    List.map_append, List.map_cons, toLower_toUpper_of_isSmallOrDigit hword, snakeAfter]
  split <;> rfl

/-- No two underscores come next to each other. -/
theorem snakeAfter_ne (raise : Bool) (h : IsSnakeText text) (rest : List Char) :
    snakeAfter before raise text ≠ '_' :: '_' :: rest := by
  have hform := isCamelForm_joinWords h.isBasicLatin raise
  rw [snakeAfter]
  cases hjoin : joinWords isUnderscore raise text with
  | nil => exact fun h => nomatch h
  | cons c words =>
    rw [hjoin] at hform
    have hne := hform.toLower_ne List.mem_cons_self
    rw [underscoredAfter, List.map_append, List.map_cons]
    split
    · exact fun h => hne (List.cons.inj (List.cons.inj h).2).1
    · exact fun h => hne (List.cons.inj h).1

end SnakeAfter

/-- A text comes back from camel case exactly if that shows its boundaries. The text is behind
`front`, of which `before` is left at the end in camel case. An underscore may have been dropped
already: then it has to come back in front. -/
theorem snakeAfter_eq_iff {front rest : List Char} {before : Char} (h : IsSnakeText rest)
    (hlast : front.getLast?.any (· ≠ '_') = true)
    (hends : endsVisibly front = isSmallOrDigit before) :
    (snakeAfter before false rest = rest ↔ KeepsBoundaries front rest) ∧
      (snakeAfter before true rest = '_' :: rest ↔ KeepsBoundaries front ('_' :: rest)) := by
  have hfront : front ≠ [] := by
    rintro rfl
    cases hlast
  induction rest generalizing front before with
  | nil =>
    refine ⟨iff_of_true rfl (keepsBoundaries_nil front),
      iff_of_false (List.cons_ne_nil '_' []).symm fun hkeeps => ?_⟩
    cases ((keepsBoundaries_cons.mp hkeeps).1 rfl).letter
  | cons c rest ih =>
    obtain ⟨hc, hrest⟩ := List.forall_mem_cons.mp h
    rcases hc with hc | rfl
    · have hne := ne_underscore_of_isSmallOrDigit hc
      have hkeeps : ∀ front, KeepsBoundaries front (c :: rest) ↔
          KeepsBoundaries (front ++ [c]) rest := fun front =>
        keepsBoundaries_cons.trans (and_iff_right fun heq => absurd heq hne)
      have hconcat : ∀ front : List Char, (front ++ [c]).getLast?.any (· ≠ '_') = true := by
        intro front
        simpa using hne
      constructor
      · have hvisible : endsVisibly (front ++ [c]) = isSmallOrDigit c := by
          rw [endsVisibly_concat, hlast, hc, decide_eq_true hne, Bool.and_self, Bool.or_true]
        have hbehind := (ih hrest (hconcat front) hvisible (by simp)).1
        rw [snakeAfter_cons before hc, hkeeps, ← hbehind, List.cons.injEq]
        exact and_iff_right rfl
      · have hother : ∀ words, c :: words ≠ '_' :: c :: rest := fun _ heq =>
          hne (List.cons.inj heq).1
        rw [keepsBoundaries_cons, hkeeps, imp_iff_right rfl, showsBoundary_cons_iff hfront, hends]
        cases hletter : isSmall c with
        | false =>
          have hdigit : c.isDigit = true := by simpa [isSmallOrDigit, hletter] using hc
          rw [snakeAfter_digit before hdigit]
          exact iff_of_false (hother _) fun h => Bool.false_ne_true h.1.1
        | true =>
          have hhidden : endsVisibly (front ++ ['_'] ++ [c]) = isSmallOrDigit c.toUpper := by
            rw [endsVisibly_concat, isDigit_of_isAlpha (isAlpha_of_isSmall hletter),
              List.getLast?_concat, isSmallOrDigit_of_isCapital (isCapital_toUpper hletter)]
            simp
          have hbehind := (ih hrest (hconcat _) hhidden (by simp)).1
          rw [snakeAfter_letter before hletter hrest, ← hbehind]
          cases isSmallOrDigit before || rest.head?.any isSmall with
          | false => exact iff_of_false (hother _) fun h => Bool.false_ne_true h.1.2
          | true => simp
    · rw [snakeAfter_underscore, snakeAfter_underscore]
      refine ⟨(ih hrest hlast hends hfront).2,
        iff_of_false (snakeAfter_ne before true hrest rest) fun hkeeps => ?_⟩
      cases ((keepsBoundaries_cons.mp hkeeps).1 rfl).letter

/-! ### Stability -/

/-- The identifier made from a word text is one. -/
theorem Language.isWordText_identifier (language : Language) {name : String}
    (h : IsWordText name.toList) : IsWordText (language.identifier name).toList := by
  obtain ⟨f, hf, hidentifier⟩ := language.exists_letterwise
  rw [hidentifier, String.toList_ofList]
  rcases camelWords_eq h with ⟨-, hwords⟩ | ⟨c, rest, -, hwords, hc, hrest⟩
  · rw [hwords]
    exact fun _ hmem => nomatch hmem
  · rw [hwords, mapFirst]
    intro d hd
    rcases List.mem_append.mp hd with hd | hd
    · exact .inl (List.all_eq_true.mp (hf c hc).1 d hd)
    · exact .inl (List.all_eq_true.mp hrest d hd)

theorem isSnakeText_snakeCase {name : String} (h : IsWordText name.toList) :
    IsSnakeText (snakeCase name).toList := by
  have hword := isWordText_underscoredAfter h
  rw [snakeCase_of_isWordText h, String.toList_ofList]
  refine List.forall_mem_map.mpr fun c hc => ?_
  rcases hword c hc with halphanum | rfl
  · exact .inl (isSmallOrDigit_toLower halphanum)
  · exact .inr rfl

/-- Nothing comes before the first character of a text. -/
theorem map_toLower_underscoredAfter_none (c : Char) (text : List Char) :
    (underscoredAfter none (c :: text)).map Char.toLower =
      c.toLower :: (underscoredAfter (some c) text).map Char.toLower := by
  rw [underscoredAfter, opensBetween, Option.isSome_none, Bool.false_and, Bool.false_and,
    if_neg Bool.false_ne_true, List.nil_append, List.map_cons]

/-- A text comes back from camel case with a capital in front exactly if that shows all its
boundaries. -/
theorem map_toLower_modifyHead_camelWords_eq_iff {text : List Char} (h : IsSnakeText text) :
    (underscoredAfter none ((camelWords text).modifyHead Char.toUpper)).map Char.toLower = text ↔
      KeepsBoundaries [] text := by
  cases text with
  | nil => exact iff_of_true rfl (keepsBoundaries_nil [])
  | cons c rest =>
    obtain ⟨hc, hrest⟩ := List.forall_mem_cons.mp h
    rcases hc with hc | rfl
    · have hne := ne_underscore_of_isSmallOrDigit hc
      have hcamel : camelWords (c :: rest) = c :: joinWords isUnderscore false rest := by
        have hword := isUnderscore_of_isSmallOrDigit hc
        rw [camelWords, List.dropWhile_cons_of_neg (by simp [hword]), joinWords, hword]
        rfl
      have hends : endsVisibly [c] = isSmallOrDigit c.toUpper := by
        rw [isSmallOrDigit_toUpper]
        simp [endsVisibly]
      have hbehind := (snakeAfter_eq_iff hrest (by simpa using hne) hends).1
      rw [hcamel, List.modifyHead_cons, map_toLower_underscoredAfter_none,
        toLower_toUpper_of_isSmallOrDigit hc, ← snakeAfter,
        keepsBoundaries_cons, List.nil_append, ← hbehind, List.cons.injEq, and_iff_right rfl,
        and_iff_right fun heq => absurd heq hne]
    · refine iff_of_false ?_ fun hkeeps => ((keepsBoundaries_cons.mp hkeeps).1 rfl).front_ne_nil rfl
      -- no underscore comes before the first character of a text in camel case
      have hform := (isCamelForm_camelWords h.isBasicLatin).modifyHead .golang
      change ((underscoredAfter none
        ((camelWords ('_' :: rest)).modifyHead Language.golang.letterCase)).map Char.toLower) ≠ _
      cases hwords : (camelWords ('_' :: rest)).modifyHead Language.golang.letterCase with
      | nil => exact (List.cons_ne_nil '_' rest).symm
      | cons c words =>
        rw [hwords] at hform
        rw [map_toLower_underscoredAfter_none]
        exact fun heq => hform.toLower_ne List.mem_cons_self (List.cons.inj heq).1

/-- A name in snake case comes back if camel case shows all its boundaries. -/
theorem snakeCase_capitalize_eq_iff {name : String} (h : IsSnakeText name.toList) :
    snakeCase (capitalize name) = name ↔ KeepsBoundaries [] name.toList := by
  have hcapital : capitalize name = .ofList ((camelWords name.toList).modifyHead Char.toUpper) :=
    Language.golang.identifier_of_isBasicLatin h.isBasicLatin
  have hword : IsWordText (capitalize name).toList :=
    Language.golang.isWordText_identifier h.isWordText
  rw [← String.toList_inj, snakeCase_of_isWordText hword, String.toList_ofList, hcapital,
    String.toList_ofList, map_toLower_modifyHead_camelWords_eq_iff h]

/-- **Stability**: a name that is put into snake case, capitalized and put into snake case again is
the same exactly if camel case shows the boundary at each of its underscores. -/
theorem snakeCase_capitalize_snakeCase_iff {name : String} (h : IsWordText name.toList) :
    snakeCase (capitalize (snakeCase name)) = snakeCase name ↔
      ∀ front back, (snakeCase name).toList = front ++ '_' :: back → ShowsBoundary front back :=
  snakeCase_capitalize_eq_iff (isSnakeText_snakeCase h)

/-- Behind a digit, behind a word and in front of two letters a boundary is visible. -/
theorem snakeCase_capitalize_snakeCase_iff_acronyms :
    IsWordText "HTTPServer_ofAB1".toList ∧
      snakeCase "HTTPServer_ofAB1" = "http_server_of_ab1" ∧
      ∀ front back, "http_server_of_ab1".toList = front ++ '_' :: back →
        ShowsBoundary front back := by
  have h : IsWordText "HTTPServer_ofAB1".toList := by decide
  have hsnake : snakeCase "HTTPServer_ofAB1" = "http_server_of_ab1" := by decide +kernel
  have hstable := snakeCase_capitalize_snakeCase_iff h
  rw [hsnake] at hstable
  exact ⟨h, hsnake, hstable.mp (by decide +kernel)⟩

/-- The underscore in front is dropped, and that between words of one letter does not come back. -/
theorem snakeCase_capitalize_snakeCase_ne :
    (IsWordText "_a".toList ∧ snakeCase "_a" = "_a" ∧
      snakeCase (capitalize (snakeCase "_a")) ≠ snakeCase "_a") ∧
    (IsWordText "a_b".toList ∧ snakeCase "a_b" = "a_b" ∧
      snakeCase (capitalize (snakeCase "a_b")) ≠ snakeCase "a_b") := by
  decide +kernel

end ContractBindings
