import ContractBindings.Language.Names
import ContractBindings.Text.Blank
import Mathlib

/-!
# Letter case of identifiers

An identifier is a name in camel case with its first letter set to the case of the language. So what
camel case does to a name holds for both languages: the underscores are gone, and all else is there
in its order, up to the case of letters (`Language.isCamelForm_identifier`). And since the case of
the first letter is set whatever it was, an identifier made from another one is the identifier made
from the name itself (`Language.identifier_identifier`).

The names are basic Latin texts. Outside of them the capital form of a letter may be several
letters, and need not lead back to the letter.
-/

namespace ContractBindings

/-! ### Basic Latin characters -/

/-- **Basic Latin** text: the codes of its characters are below 128. -/
def IsBasicLatin (text : List Char) : Prop := ∀ c ∈ text, c.toNat < 128

instance (text : List Char) : Decidable (IsBasicLatin text) :=
  List.decidableBAll (fun c : Char => c.toNat < 128) text

theorem lt_of_isAlphanum {c : Char} (h : c.isAlphanum = true) : c.toNat < 128 :=
  Nat.lt_of_le_of_lt (toNat_of_isAlphanum h).2 (by decide)

theorem isCapital_eq_isUpper (c : Char) : isCapital c = c.isUpper := by
  simp [isCapital, Char.isUpper, Char.le_def]

theorem isSmall_eq_isLower (c : Char) : isSmall c = c.isLower := by
  simp [isSmall, Char.isLower, Char.le_def]

theorem upperChar_of_basicLatin {c : Char} (h : c.toNat < 128) : upperChar c = [c.toUpper] := by
  rw [upperChar, if_pos h, isSmall_eq_isLower]
  split
  · rename_i hlower
    rw [Char.toUpper_eq_of_isLower hlower]
  · rename_i hlower
    rw [Char.toUpper_eq_of_not_isLower hlower]

theorem lowerChar_of_basicLatin {c : Char} (h : c.toNat < 128) : lowerChar c = [c.toLower] := by
  rw [lowerChar, if_pos h, isCapital_eq_isUpper]
  split
  · rename_i hupper
    rw [Char.toLower_eq_of_isUpper hupper]
  · rename_i hupper
    rw [Char.toLower_eq_of_not_isUpper hupper]

namespace Language

/-- The case that the first letter of an identifier is set to. -/
def letterCase : Language → Char → Char
  | golang => Char.toUpper
  | java => Char.toLower

variable (language : Language)

/-- The case that is set last counts. -/
theorem letterCase_letterCase (other : Language) (c : Char) :
    language.letterCase (other.letterCase c) = language.letterCase c := by
  cases language <;> cases other <;> simp [letterCase]

theorem isAlpha_letterCase (c : Char) : (language.letterCase c).isAlpha = c.isAlpha := by
  cases language <;> simp [letterCase]

/-- Only letters have a case. -/
theorem letterCase_eq_self {c : Char} (h : c.isAlpha = false) : language.letterCase c = c := by
  obtain ⟨hupper, hlower⟩ : c.isUpper = false ∧ c.isLower = false := by simpa [Char.isAlpha] using h
  cases language with
  | golang => exact Char.toUpper_eq_of_not_isLower (by simp [hlower])
  | java => exact Char.toLower_eq_of_not_isUpper (by simp [hupper])

theorem isAlphanum_letterCase (c : Char) :
    (language.letterCase c).isAlphanum = c.isAlphanum := by
  cases halpha : c.isAlpha with
  | false => rw [language.letterCase_eq_self halpha]
  | true =>
    rw [Char.isAlphanum, Char.isAlphanum, isAlpha_letterCase, halpha, Bool.true_or, Bool.true_or]

theorem letterCase_lt {c : Char} (h : c.toNat < 128) : (language.letterCase c).toNat < 128 := by
  cases hword : c.isAlphanum with
  | false =>
    rw [Char.isAlphanum, Bool.or_eq_false_iff] at hword
    rwa [language.letterCase_eq_self hword.1]
  | true => exact lt_of_isAlphanum ((language.isAlphanum_letterCase c).trans hword)

theorem isUnderscore_letterCase (c : Char) :
    isUnderscore (language.letterCase c) = isUnderscore c := by
  have hletter : ∀ {d : Char}, d.isAlpha = true → isUnderscore d = false := by
    intro d hd
    refine beq_eq_false_iff_ne.mpr ?_
    rintro rfl
    exact absurd hd (by decide)
  cases halpha : c.isAlpha with
  | false => rw [language.letterCase_eq_self halpha]
  | true => rw [hletter halpha, hletter ((language.isAlpha_letterCase c).trans halpha)]

end Language

/-! ### Camel case -/

/-- **Camel form** of a text: it has the characters of the text but for the underscores, in their
order and up to the case of letters. -/
structure IsCamelForm (form text : List Char) : Prop where
  /-- There are basic Latin characters only. -/
  isBasicLatin : IsBasicLatin form
  /-- There is no underscore. -/
  isUnderscore_eq_false : ∀ c ∈ form, isUnderscore c = false
  /-- Nothing else is lost, added or moved. -/
  map_toLower : form.map Char.toLower = (text.filter (!isUnderscore ·)).map Char.toLower

namespace IsCamelForm

variable {form text : List Char}

/-- An underscore leaves nothing in the form. -/
theorem skip {c : Char} (hc : isUnderscore c = true) (h : IsCamelForm form text) :
    IsCamelForm form (c :: text) where
  isBasicLatin := h.isBasicLatin
  isUnderscore_eq_false := h.isUnderscore_eq_false
  map_toLower := by rw [List.filter_cons_of_neg (by simp [hc]), h.map_toLower]

/-- Any other character stays, in its own or another case. -/
theorem keep {c d : Char} (hlow : d.toNat < 128) (hcase : d.toLower = c.toLower)
    (hc : isUnderscore c = false) (hd : isUnderscore d = false) (h : IsCamelForm form text) :
    IsCamelForm (d :: form) (c :: text) where
  isBasicLatin := List.forall_mem_cons.mpr ⟨hlow, h.isBasicLatin⟩
  isUnderscore_eq_false := List.forall_mem_cons.mpr ⟨hd, h.isUnderscore_eq_false⟩
  map_toLower := by
    rw [List.filter_cons_of_pos (by simp [hc]), List.map_cons, List.map_cons, hcase, h.map_toLower]

/-- The first letter may be set to a case. -/
theorem modifyHead (language : Language) (h : IsCamelForm form text) :
    IsCamelForm (form.modifyHead language.letterCase) text := by
  cases form with
  | nil => exact h
  | cons c rest =>
    obtain ⟨hlow, hrest⟩ := List.forall_mem_cons.mp h.isBasicLatin
    obtain ⟨hc, hwords⟩ := List.forall_mem_cons.mp h.isUnderscore_eq_false
    refine ⟨List.forall_mem_cons.mpr ⟨language.letterCase_lt hlow, hrest⟩,
      List.forall_mem_cons.mpr ⟨(language.isUnderscore_letterCase c).trans hc, hwords⟩, ?_⟩
    have hsmall : (language.letterCase c).toLower = c.toLower :=
      Language.java.letterCase_letterCase language c
    rw [List.modifyHead_cons, List.map_cons, hsmall, ← List.map_cons, h.map_toLower]

/-- Nothing is left exactly of underscores. -/
theorem eq_nil_iff (h : IsCamelForm form text) : form = [] ↔ ∀ c ∈ text, isUnderscore c = true := by
  rw [← List.map_eq_nil_iff (f := Char.toLower), h.map_toLower, List.map_eq_nil_iff,
    List.filter_eq_nil_iff]
  simp

end IsCamelForm

section Words

variable {text : List Char}

/-- Joining the words of a text gives a camel form of it. -/
theorem isCamelForm_joinWords (h : IsBasicLatin text) (raise : Bool) :
    IsCamelForm (joinWords isUnderscore raise text) text := by
  induction text generalizing raise with
  | nil => exact ⟨h, (fun _ hc => nomatch hc), rfl⟩
  | cons c rest ih =>
    obtain ⟨hlow, hrest⟩ := List.forall_mem_cons.mp h
    rw [joinWords]
    split
    · rename_i hc
      exact (ih hrest true).skip hc
    · rename_i hc
      rw [Bool.not_eq_true] at hc
      cases raise with
      | false => exact (ih hrest false).keep hlow rfl hc hc
      | true =>
        rw [if_pos rfl, upperChar_of_basicLatin hlow]
        exact (ih hrest false).keep (Language.golang.letterCase_lt hlow)
          (Language.java.letterCase_letterCase .golang c) hc
          ((Language.golang.isUnderscore_letterCase c).trans hc)

/-- The words of a name, joined, are a camel form of it. -/
theorem isCamelForm_camelWords (h : IsBasicLatin text) : IsCamelForm (camelWords text) text := by
  have hdrop : IsBasicLatin (text.dropWhile isUnderscore) := fun c hc =>
    h c ((List.dropWhile_sublist _).mem hc)
  have hfront : (text.takeWhile isUnderscore).filter (!isUnderscore ·) = [] :=
    List.filter_eq_nil_iff.mpr fun c hc => by simp [List.mem_takeWhile_imp hc]
  have hfilter : (text.dropWhile isUnderscore).filter (!isUnderscore ·) =
      text.filter (!isUnderscore ·) := by
    rw [← List.nil_append (List.filter _ _), ← hfront, ← List.filter_append,
      List.takeWhile_append_dropWhile]
  obtain ⟨hlow, hplain, hsmall⟩ := isCamelForm_joinWords hdrop false
  exact ⟨hlow, hplain, hsmall.trans (congrArg _ hfilter)⟩

/-- A text without separators is a single word. -/
theorem joinWords_eq_self {isSeparator : Char → Bool} (h : ∀ c ∈ text, isSeparator c = false) :
    joinWords isSeparator false text = text := by
  induction text with
  | nil => rfl
  | cons c rest ih =>
    obtain ⟨hc, hrest⟩ := List.forall_mem_cons.mp h
    rw [joinWords, hc, if_neg Bool.false_ne_true, if_neg Bool.false_ne_true, ih hrest,
      List.singleton_append]

theorem camelWords_eq_self (h : ∀ c ∈ text, isUnderscore c = false) : camelWords text = text := by
  have hdrop : text.dropWhile isUnderscore = text := by
    cases text with
    | nil => rfl
    | cons c rest =>
      exact List.dropWhile_cons_of_neg (Bool.eq_false_iff.mp (h c List.mem_cons_self))
  rw [camelWords, hdrop, joinWords_eq_self h]

end Words

/-! ### Identifiers -/

namespace Language

variable (language : Language) {name : String}

/-- An identifier is the name in camel case with its first letter set to a case. -/
theorem identifier_of_isBasicLatin (h : IsBasicLatin name.toList) :
    language.identifier name =
      .ofList ((camelWords name.toList).modifyHead language.letterCase) := by
  have hlow := (isCamelForm_camelWords h).isBasicLatin
  have hfirst : ∀ f : Char → List Char, (∀ {c}, c.toNat < 128 → f c = [language.letterCase c]) →
      mapFirst f (camelWords name.toList) =
        (camelWords name.toList).modifyHead language.letterCase := by
    intro f hf
    cases hwords : camelWords name.toList with
    | nil => rfl
    | cons c rest =>
      rw [hwords] at hlow
      rw [mapFirst, hf (hlow c List.mem_cons_self), List.singleton_append, List.modifyHead_cons]
  cases language with
  | golang => exact congrArg String.ofList (hfirst upperChar upperChar_of_basicLatin)
  | java => exact congrArg String.ofList (hfirst lowerChar lowerChar_of_basicLatin)

theorem isCamelForm_identifier (h : IsBasicLatin name.toList) :
    IsCamelForm (language.identifier name).toList name.toList := by
  rw [language.identifier_of_isBasicLatin h, String.toList_ofList]
  exact (isCamelForm_camelWords h).modifyHead language

/-- Only the case of the first letter is left of a language that comes before. -/
theorem identifier_identifier (other : Language) (h : IsBasicLatin name.toList) :
    language.identifier (other.identifier name) = language.identifier name := by
  have hform := other.isCamelForm_identifier h
  rw [language.identifier_of_isBasicLatin hform.isBasicLatin,
    camelWords_eq_self hform.isUnderscore_eq_false, other.identifier_of_isBasicLatin h,
    language.identifier_of_isBasicLatin h, String.toList_ofList]
  cases hwords : camelWords name.toList with
  | nil => rfl
  | cons c rest =>
    rw [List.modifyHead_cons, List.modifyHead_cons, List.modifyHead_cons,
      language.letterCase_letterCase other]

end Language

/-- **Laws of letter case**: each of the two spellings undoes the other and itself. Both have the
characters of the name but for the underscores, in their order and up to the case of letters, so
that nothing is left of underscores only. -/
theorem capitalize_decapitalize_laws {name : String} (h : IsBasicLatin name.toList) :
    capitalize (decapitalize name) = capitalize name ∧
    decapitalize (capitalize name) = decapitalize name ∧
    capitalize (capitalize name) = capitalize name ∧
    decapitalize (decapitalize name) = decapitalize name ∧
    ∀ form ∈ [capitalize name, decapitalize name],
      '_' ∉ form.toList ∧
      form.toList.map Char.toLower = (name.toList.filter (· ≠ '_')).map Char.toLower ∧
      (form = "" ↔ ∀ c ∈ name.toList, c = '_') := by
  have habsorbs := fun language other : Language => language.identifier_identifier other h
  have hform : ∀ language : Language, IsCamelForm (language.identifier name).toList name.toList :=
    fun language => language.isCamelForm_identifier h
  refine ⟨habsorbs .golang .java, habsorbs .java .golang, habsorbs .golang .golang,
    habsorbs .java .java, fun form hmem => ?_⟩
  obtain ⟨language, rfl⟩ : ∃ language : Language, form = language.identifier name := by
    simp only [List.mem_cons, List.not_mem_nil, or_false] at hmem
    exact hmem.elim (fun h => ⟨.golang, h⟩) fun h => ⟨.java, h⟩
  refine ⟨fun hmem => ?_, ?_, ?_⟩
  · cases (hform language).isUnderscore_eq_false _ hmem
  · have hkept : (fun c => !isUnderscore c) = fun c => decide (c ≠ '_') := by
      funext c
      exact (decide_not (p := c = '_')).symm
    rw [(hform language).map_toLower, hkept]
  · rw [← String.toList_eq_nil_iff, (hform language).eq_nil_iff]
    simp [isUnderscore]

theorem capitalize_decapitalize_laws_underscores :
    IsBasicLatin "__fee_2x__Of_".toList ∧ capitalize "__fee_2x__Of_" = "Fee2xOf" ∧
      decapitalize (capitalize "__fee_2x__Of_") = "fee2xOf" := by
  have h : IsBasicLatin "__fee_2x__Of_".toList := by decide
  exact ⟨h, by decide, (capitalize_decapitalize_laws h).2.1.trans (by decide)⟩

end ContractBindings
