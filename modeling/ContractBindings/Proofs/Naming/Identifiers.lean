import ContractBindings.Config
import ContractBindings.Proofs.Naming.Casing
import ContractBindings.Proofs.Naming.Fields
import ContractBindings.Text.Blank

/-!
# Plain identifiers

Names in contracts are identifiers, which underscores and digits may be part of. The names made from
them have no underscores. They are **plain identifiers**, a letter followed by letters and digits,
unless nothing is left when the underscores in front are dropped, or a digit comes first then:

* `isPlainIdentifier_methodName` — the names of methods and events, with or without a number behind
  them;
* `isPlainIdentifier_freshField` — the names of record fields, for which a number takes the place of
  an empty or repeated name.
-/

namespace ContractBindings

/-- Whether a name is a plain identifier: letters and digits with a letter in front. -/
def isPlainIdentifier (name : String) : Bool :=
  name.toList.head?.any Char.isAlpha && name.toList.all Char.isAlphanum

/-- The first character of a name behind the underscores in front. -/
def leadingChar? (name : String) : Option Char := (name.toList.dropWhile isUnderscore).head?

/-- Whether a letter comes first behind the underscores. -/
def isLetterLed (name : String) : Bool := (leadingChar? name).any Char.isAlpha

/-- Whether a digit comes first behind the underscores. -/
def isDigitLed (name : String) : Bool := (leadingChar? name).any Char.isDigit

/-! ### Letters and digits -/

theorem isAlphanum_of_isDigit {c : Char} (h : c.isDigit = true) : c.isAlphanum = true := by
  rw [Char.isAlphanum, h, Bool.or_true]

theorem isAlpha_of_isDigit {c : Char} (h : c.isDigit = true) : c.isAlpha = false := by
  simp only [Char.isDigit, Char.isAlpha, Char.isUpper, Char.isLower, UInt32.le_iff_toNat_le,
    Bool.and_eq_true, decide_eq_true_eq, Bool.or_eq_false_iff, Bool.and_eq_false_iff,
    decide_eq_false_iff_not, UInt32.reduceToNat, Char.reduceVal] at h ⊢
  omega

theorem isDigit_of_isAlpha {c : Char} (h : c.isAlpha = true) : c.isDigit = false := by
  refine Bool.eq_false_iff.mpr fun hdigit => ?_
  rw [isAlpha_of_isDigit hdigit] at h
  cases h

/-- **Letterwise** map: a letter goes to a single letter and a digit to a single digit. -/
def Letterwise (f : Char → List Char) : Prop :=
  ∀ c, c.isAlphanum = true →
    (f c).all Char.isAlphanum = true ∧ (f c).map Char.isAlpha = [c.isAlpha]

theorem letterwise_of_letterCase (language : Language) {f : Char → List Char}
    (hf : ∀ {c : Char}, c.toNat < 128 → f c = [language.letterCase c]) : Letterwise f := by
  intro c hc
  simp [hf (lt_of_isAlphanum hc), language.isAlphanum_letterCase, language.isAlpha_letterCase, hc]

theorem letterwise_upperChar : Letterwise upperChar :=
  letterwise_of_letterCase .golang upperChar_of_basicLatin

theorem letterwise_lowerChar : Letterwise lowerChar :=
  letterwise_of_letterCase .java lowerChar_of_basicLatin

/-! ### Names in camel case -/

/-- **Word characters** only: letters, digits and underscores. -/
def IsWordText (text : List Char) : Prop := ∀ c ∈ text, c.isAlphanum = true ∨ c = '_'

instance (text : List Char) : Decidable (IsWordText text) :=
  List.decidableBAll (fun c : Char => c.isAlphanum = true ∨ c = '_') text

/-- An identifier has word characters only. -/
theorem isWordText_of_isIdentifier {name : String} (h : isIdentifier name = true) :
    IsWordText name.toList := by
  rw [isIdentifier] at h
  split at h
  · cases h
  · rename_i c rest htext
    rw [Bool.and_eq_true] at h
    rw [htext]
    refine List.forall_mem_cons.mpr ⟨?_, fun d hd => ?_⟩
    · rw [Char.isAlphanum]
      simpa using Or.imp_left .inl (by simpa using h.1)
    · simpa using List.all_eq_true.mp h.2 d hd

theorem isAlphanum_of_isWordText {text : List Char} (h : IsWordText text) {c : Char}
    (hc : c ∈ text) (hword : isUnderscore c = false) : c.isAlphanum = true :=
  (h c hc).resolve_right fun heq => by simp [isUnderscore, heq] at hword

/-- Joining the words leaves letters and digits only. -/
theorem all_isAlphanum_joinWords {text : List Char} (h : IsWordText text) (raise : Bool) :
    (joinWords isUnderscore raise text).all Char.isAlphanum = true := by
  induction text generalizing raise with
  | nil => rfl
  | cons c rest ih =>
    have hrest : IsWordText rest := fun d hd => h d (List.mem_cons_of_mem c hd)
    rw [joinWords]
    split
    · exact ih hrest true
    · rename_i hword
      have hc := isAlphanum_of_isWordText h List.mem_cons_self (by simpa using hword)
      rw [List.all_append, ih hrest false, Bool.and_true]
      split
      · exact (letterwise_upperChar c hc).1
      · rwa [List.all_cons, List.all_nil, Bool.and_true]

/-- The characters of an identifier in camel case, and whether a letter is in front. -/
theorem camelWords_eq {name : String} (h : IsWordText name.toList) :
    (leadingChar? name = none ∧ camelWords name.toList = []) ∨
      ∃ c rest, leadingChar? name = some c ∧ camelWords name.toList = c :: rest ∧
        c.isAlphanum = true ∧ rest.all Char.isAlphanum = true := by
  have hdrop := List.head?_dropWhile_not isUnderscore name.toList
  have hword : IsWordText (name.toList.dropWhile isUnderscore) := fun c hc =>
    h c ((List.dropWhile_sublist _).mem hc)
  rw [leadingChar?, camelWords]
  cases htext : name.toList.dropWhile isUnderscore with
  | nil => exact .inl ⟨rfl, rfl⟩
  | cons c rest =>
    rw [htext] at hdrop hword
    have hc : isUnderscore c = false := hdrop
    refine .inr ⟨c, joinWords isUnderscore false rest, rfl, ?_,
      isAlphanum_of_isWordText hword List.mem_cons_self hc, ?_⟩
    · rw [joinWords, hc]
      rfl
    · exact all_isAlphanum_joinWords (fun d hd => hword d (List.mem_cons_of_mem c hd)) false

/-- What is left when the underscores in front are dropped begins with a letter or a digit. -/
theorem isLetterLed_iff {name : String} (h : IsWordText name.toList)
    (hleft : leadingChar? name ≠ none) : isLetterLed name = true ↔ isDigitLed name = false := by
  rcases camelWords_eq h with ⟨hnone, -⟩ | ⟨c, -, hsome, -, hc, -⟩
  · exact absurd hnone hleft
  · rw [isLetterLed, isDigitLed, hsome, Option.any_some, Option.any_some]
    rw [Char.isAlphanum, Bool.or_eq_true] at hc
    refine ⟨fun halpha => ?_, fun hdigit => hc.resolve_right (by rw [hdigit]; decide)⟩
    refine Bool.eq_false_iff.mpr fun hdigit => ?_
    rw [isAlpha_of_isDigit hdigit] at halpha
    cases halpha

namespace Language

variable (language : Language)

theorem exists_letterwise : ∃ f, Letterwise f ∧
    ∀ name, language.identifier name = .ofList (mapFirst f (camelWords name.toList)) := by
  cases language with
  | golang => exact ⟨upperChar, letterwise_upperChar, fun _ => rfl⟩
  | java => exact ⟨lowerChar, letterwise_lowerChar, fun _ => rfl⟩

/-- **Plain identifiers**: the name made from an identifier, with digits behind it or not, is plain
exactly if a letter leads the identifier. -/
theorem isPlainIdentifier_identifier_append {name digits : String} (h : IsWordText name.toList)
    (hdigits : ∀ c ∈ digits.toList, c.isDigit = true) :
    isPlainIdentifier (language.identifier name ++ digits) = isLetterLed name := by
  obtain ⟨f, hf, hidentifier⟩ := language.exists_letterwise
  have hall : digits.toList.all Char.isAlphanum = true :=
    List.all_eq_true.mpr fun c hc => isAlphanum_of_isDigit (hdigits c hc)
  rw [isPlainIdentifier, isLetterLed, hidentifier, String.toList_append, String.toList_ofList]
  rcases camelWords_eq h with ⟨hnone, hwords⟩ | ⟨c, rest, hsome, hwords, hc, hrest⟩
  · rw [hnone, hwords, mapFirst, List.nil_append, hall, Bool.and_true]
    cases hfirst : digits.toList.head? with
    | none => rfl
    | some d => exact isAlpha_of_isDigit (hdigits d (List.mem_of_mem_head? hfirst))
  · obtain ⟨hletters, hfirst⟩ := hf c hc
    obtain ⟨d, hd, halpha⟩ := List.map_eq_singleton_iff.mp hfirst
    rw [hd, List.all_cons, List.all_nil, Bool.and_true] at hletters
    rw [hsome, hwords, mapFirst, hd]
    simp [hletters, halpha, hrest, hall]

theorem isPlainIdentifier_identifier {name : String} (h : IsWordText name.toList) :
    isPlainIdentifier (language.identifier name) = isLetterLed name := by
  have hempty : ∀ c ∈ "".toList, c.isDigit = true := fun _ hc => nomatch hc
  rw [← language.isPlainIdentifier_identifier_append h hempty, String.append_empty]

/-- Nothing is left of a name without other characters than underscores. -/
theorem identifier_eq_empty_iff {name : String} (h : IsWordText name.toList) :
    language.identifier name = "" ↔ leadingChar? name = none := by
  obtain ⟨f, hf, hidentifier⟩ := language.exists_letterwise
  rw [hidentifier]
  rcases camelWords_eq h with ⟨hnone, hwords⟩ | ⟨c, rest, hsome, hwords, hc, -⟩
  · rw [hwords, mapFirst]
    exact iff_of_true rfl hnone
  · obtain ⟨d, hd, -⟩ := List.map_eq_singleton_iff.mp (hf c hc).2
    rw [hwords, mapFirst, hd, hsome]
    refine iff_of_false (fun hempty => ?_) (Option.some_ne_none c)
    exact absurd (congrArg String.toList hempty) (by simp)

/-! ### Keys -/

/-- The name of a method or event is plain exactly if a letter leads its own name, whichever of its
names is the key. -/
theorem isPlainIdentifier_methodName {earlier : List String} {name key : String}
    (h : IsWordText name.toList) (hkey : language.IsRightfulKey earlier name key) :
    isPlainIdentifier (language.methodName key) = isLetterLed name := by
  by_cases hunclaimed : language.IsUnclaimed earlier name
  · rw [hkey.own hunclaimed]
    exact language.isPlainIdentifier_identifier h
  · obtain ⟨n, rfl, -⟩ := hkey.numbered hunclaimed
    rw [methodName_numberedKey]
    exact language.isPlainIdentifier_identifier_append h fun _ => isDigit_of_mem_toString

/-! ### Record fields -/

theorem isPlainIdentifier_numberedField (j : Nat) :
    isPlainIdentifier (language.numberedField j) = true := by
  have hdigits : ∀ c ∈ (toString j).toList, c.isDigit = true := fun _ => isDigit_of_mem_toString
  have hword : IsWordText "field".toList := isWordText_of_isIdentifier (by decide)
  rw [numberedField, fieldName, language.identifier_append_digits _ _ hdigits,
    language.isPlainIdentifier_identifier_append hword hdigits]
  decide

/-- The name of a field is plain exactly if no digit leads its own name, or an earlier field has
the name made from that. -/
theorem isPlainIdentifier_freshField {used : List String} {raw : String}
    (h : IsWordText raw.toList) :
    isPlainIdentifier (language.freshField used raw) = true ↔
      isDigitLed raw = false ∨ language.fieldName raw ∈ used := by
  rw [freshField]
  split
  · rename_i hown
    rw [fieldName, language.isPlainIdentifier_identifier h, ← fieldName, or_iff_left hown.2]
    exact isLetterLed_iff h fun hnone => hown.1 ((language.identifier_eq_empty_iff h).mpr hnone)
  · rename_i hown
    refine iff_of_true (language.isPlainIdentifier_numberedField _) ?_
    by_cases hused : language.fieldName raw ∈ used
    · exact .inr hused
    · have hempty : language.fieldName raw = "" := by simpa [hused] using hown
      rw [isDigitLed, (language.identifier_eq_empty_iff h).mp hempty]
      exact .inl rfl

end Language

end ContractBindings
