import ContractBindings.Abi.TypeText
import ContractBindings.Proofs.Abi.Legal
import ContractBindings.TextMap.Lookup
import Mathlib.Data.List.Basic
import Mathlib.Data.List.TakeWhile

/-!
# The grammar of type texts

`Denotes` is the grammar of the texts that name a type: a base type, array suffixes behind it, the
leftmost one innermost, and blanks around the whole and before each suffix. Reading a text succeeds
if and only if the text denotes a type, and gives that type.

There are two versions of the grammar. In the stricter one the length of an array is a run of
digits; in the other one, the one that texts are read by, a plus sign may stand before it.
`parse_eq_ok_iff_denotes` says that this is all in which they differ, and `not_denotes_plusFive`
shows a text that only the second one has.
-/

namespace ContractBindings

namespace AbiType

/-! ### The grammar -/

/-- **Numeral**: one or more decimal digits, and the number that they write. -/
structure IsNumeral (digits : List Char) (n : Nat) : Prop where
  ne_nil : digits ≠ []
  isDigit : ∀ d ∈ digits, d.isDigit = true
  value : decimalValue digits = n

/-- Text of a **base type**; `components` are the fields of the tuple that it may name. -/
inductive IsBaseText (components : Option TupleFields) : List Char → AbiType → Prop where
  | address : IsBaseText components "address".toList (.elementary .address)
  | bool : IsBaseText components "bool".toList (.elementary .bool)
  | string : IsBaseText components "string".toList (.elementary .string)
  | bytes : IsBaseText components "bytes".toList (.elementary .bytes)
  | function : IsBaseText components "function".toList (.elementary .function)
  /-- A tuple, if components are given. -/
  | tuple {fields : TupleFields} (h : components = some fields) :
      IsBaseText components "tuple".toList (.tuple fields)
  /-- An unsigned integer without a width. -/
  | wideUint : IsBaseText components "uint".toList (.elementary (.uint 256))
  /-- A signed integer without a width. -/
  | wideInt : IsBaseText components "int".toList (.elementary (.int 256))
  /-- An unsigned integer of legal width. -/
  | uint {digits : List Char} {bits : Nat} (h : IsNumeral digits bits)
      (hlegal : (Elementary.uint bits).IsLegal) :
      IsBaseText components ("uint".toList ++ digits) (.elementary (.uint bits))
  /-- A signed integer of legal width. -/
  | int {digits : List Char} {bits : Nat} (h : IsNumeral digits bits)
      (hlegal : (Elementary.int bits).IsLegal) :
      IsBaseText components ("int".toList ++ digits) (.elementary (.int bits))
  /-- A byte sequence of legal size. -/
  | fixedBytes {digits : List Char} {size : Nat} (h : IsNumeral digits size)
      (hlegal : (Elementary.fixedBytes size).IsLegal) :
      IsBaseText components ("bytes".toList ++ digits) (.elementary (.fixedBytes size))

/-- Text of an array's length: a numeral below `2 ^ 64`, with a plus sign before it if `plus` allows
that. -/
def IsLengthText (plus : Bool) (text : List Char) (size : Nat) : Prop :=
  ∃ digits, IsNumeral digits size ∧ size < word64Bound ∧
    (text = digits ∨ plus = true ∧ text = '+' :: digits)

/-- The **layer** that brackets around `length` put around an element type. -/
inductive IsLayer (plus : Bool) : List Char → AbiType → AbiType → Prop where
  /-- Empty brackets make a slice. -/
  | slice {element : AbiType} : IsLayer plus [] element (.slice element)
  /-- Brackets around a length make an array. -/
  | array {length : List Char} {element : AbiType} {size : Nat}
      (h : IsLengthText plus length size) : IsLayer plus length element (.array element size)

/-- Text of a type without blanks around it: a base type, or a type with one more suffix. -/
inductive IsTypeText (plus : Bool) (components : Option TupleFields) :
    List Char → AbiType → Prop where
  /-- A base type. -/
  | base {text : List Char} {type : AbiType} (h : IsBaseText components text type) :
      IsTypeText plus components text type
  /-- A type, blanks, and a suffix. -/
  | suffix {text gap length : List Char} {element type : AbiType}
      (h : IsTypeText plus components text element) (hgap : ∀ c ∈ gap, isBlank c = true)
      (hlayer : IsLayer plus length element type) :
      IsTypeText plus components (text ++ gap ++ '[' :: length ++ [']']) type

/-- A text **denotes** a type: it is the text of the type with blanks around. -/
def Denotes (plus : Bool) (components : Option TupleFields) (text : List Char)
    (type : AbiType) : Prop :=
  ∃ lead core trail, text = lead ++ core ++ trail ∧ (∀ c ∈ lead, isBlank c = true) ∧
    (∀ c ∈ trail, isBlank c = true) ∧ IsTypeText plus components core type

/-- A suffix may stand right behind a type. -/
theorem IsTypeText.brackets {plus : Bool} {components : Option TupleFields}
    {text length : List Char} {element type : AbiType}
    (h : IsTypeText plus components text element) (hlayer : IsLayer plus length element type) :
    IsTypeText plus components (text ++ '[' :: length ++ [']']) type := by
  have hsuffix : IsTypeText plus components (text ++ [] ++ '[' :: length ++ [']']) type :=
    h.suffix (by simp) hlayer
  rwa [List.append_nil] at hsuffix

/-! ### Numbers -/

/-- A character that is no digit does not occur in a numeral. -/
theorem IsNumeral.notMem {digits : List Char} {n : Nat} (h : IsNumeral digits n) {c : Char}
    (hc : c.isDigit = false) : c ∉ digits := by
  intro hmem
  rw [h.isDigit c hmem] at hc
  cases hc

theorem checked_eq_ok_iff {kind : Elementary} {type : AbiType} :
    checked kind = .ok type ↔ kind.IsLegal ∧ type = .elementary kind := by
  rw [checked]
  cases hcheck : kind.checkWidth with
  | ok other =>
    obtain ⟨hlegal, rfl⟩ := Elementary.checkWidth_eq_ok_iff.mp hcheck
    rw [Except.ok.injEq, and_iff_right hlegal, eq_comm]
  | error fault =>
    refine iff_of_false (by simp) fun hlegal => ?_
    rw [Elementary.checkWidth_eq_ok_iff.mpr ⟨hlegal.1, rfl⟩] at hcheck
    cases hcheck

theorem readNumber_eq_ok_iff {digits : List Char} {notDigits tooLarge : TypeFault} {n : Nat} :
    readNumber digits notDigits tooLarge = .ok n ↔
      (∀ d ∈ digits, d.isDigit = true) ∧ decimalValue digits = n ∧ n < word64Bound := by
  rw [readNumber, ← List.all_eq_true]
  cases hdigits : digits.all Char.isDigit with
  | false => simp
  | true =>
    rw [Bool.not_true, if_neg Bool.false_ne_true]
    split
    · rename_i hlt
      rw [Except.ok.injEq]
      exact ⟨fun h => ⟨rfl, h, h ▸ hlt⟩, fun h => h.2.1⟩
    · rename_i hle
      refine iff_of_false (by simp) fun h => hle ?_
      exact h.2.1 ▸ h.2.2

theorem word64?_eq_some_iff {text : List Char} {n : Nat} :
    word64? text = some n ↔ IsLengthText true text n := by
  have hread : ∀ digits : List Char,
      (if digits ≠ [] ∧ digits.all Char.isDigit ∧ decimalValue digits < word64Bound then
        some (decimalValue digits) else none) = some n ↔
      IsNumeral digits n ∧ n < word64Bound := by
    intro digits
    rw [Option.ite_none_right_eq_some, Option.some.injEq, List.all_eq_true]
    constructor
    · rintro ⟨⟨hne, hdigits, hlt⟩, rfl⟩
      exact ⟨⟨hne, hdigits, rfl⟩, hlt⟩
    · rintro ⟨⟨hne, hdigits, rfl⟩, hlt⟩
      exact ⟨⟨hne, hdigits, hlt⟩, rfl⟩
  by_cases hsign : ∃ rest, text = '+' :: rest
  · obtain ⟨rest, rfl⟩ := hsign
    have hword : word64? ('+' :: rest) = some n ↔ IsNumeral rest n ∧ n < word64Bound := hread rest
    rw [hword]
    constructor
    · rintro ⟨h, hlt⟩
      exact ⟨rest, h, hlt, .inr ⟨rfl, rfl⟩⟩
    · rintro ⟨digits, h, hlt, rfl | ⟨-, heq⟩⟩
      · exact absurd List.mem_cons_self (h.notMem (by decide))
      · exact (List.cons.inj heq).2 ▸ ⟨h, hlt⟩
  · rw [word64?, hread]
    · constructor
      · rintro ⟨h, hlt⟩
        exact ⟨text, h, hlt, .inl rfl⟩
      · rintro ⟨digits, h, hlt, rfl | ⟨-, heq⟩⟩
        · exact ⟨h, hlt⟩
        · exact absurd ⟨digits, heq⟩ hsign
    · exact fun rest heq => hsign ⟨rest, heq⟩

theorem wrapSuffix_eq_ok_iff {length text : List Char} {element type : AbiType} :
    wrapSuffix length text element = .ok type ↔ IsLayer true length element type := by
  rw [wrapSuffix]
  split
  · rename_i hempty
    obtain rfl := List.isEmpty_iff.mp hempty
    constructor
    · exact fun h => Except.ok.inj h ▸ .slice
    · rintro (_ | ⟨_, ⟨⟨hne, -, -⟩, -, rfl | ⟨-, heq⟩⟩⟩)
      · rfl
      · exact absurd rfl hne
      · exact absurd heq (by simp)
  · rename_i hne
    have hiff : ∀ size, word64? length = some size ↔ IsLengthText true length size := fun _ =>
      word64?_eq_some_iff
    cases hword : word64? length with
    | none =>
      refine iff_of_false (by simp) ?_
      rintro (_ | h)
      · exact hne rfl
      · rw [(hiff _).mpr h] at hword
        cases hword
    | some size =>
      constructor
      · exact fun h => Except.ok.inj h ▸ .array ((hiff size).mp hword)
      · rintro (_ | h)
        · exact absurd rfl hne
        · rw [(hiff _).mpr h] at hword
          rw [Option.some.inj hword]

/-! ### Base types -/

theorem parseInteger_eq_ok_iff {make : Nat → Elementary} {digits : List Char} {text : String}
    {type : AbiType} (hmake : ∀ bits, (make bits).IsLegal ↔ 0 < bits ∧ bits ≤ 256 ∧ 8 ∣ bits) :
    parseInteger make digits text = .ok type ↔
      (digits = [] ∧ type = .elementary (make 256)) ∨
        ∃ bits, IsNumeral digits bits ∧ (make bits).IsLegal ∧ type = .elementary (make bits) := by
  have hwide : (make 256).IsLegal := (hmake 256).mpr (by decide)
  rw [parseInteger, except_bind_eq_ok_iff]
  simp only [readNumber_eq_ok_iff, checked_eq_ok_iff]
  constructor
  · rintro ⟨bits, ⟨hdigits, hvalue, -⟩, hlegal, rfl⟩
    cases digits with
    | nil => exact .inl ⟨rfl, rfl⟩
    | cons d rest => exact .inr ⟨bits, ⟨List.cons_ne_nil _ _, hdigits, hvalue⟩, hlegal, rfl⟩
  · rintro (⟨rfl, rfl⟩ | ⟨bits, ⟨hne, hdigits, hvalue⟩, hlegal, rfl⟩)
    · exact ⟨0, ⟨by simp, rfl, by decide⟩, hwide, rfl⟩
    · have hlt : bits < word64Bound := Nat.lt_of_le_of_lt ((hmake bits).mp hlegal).2.1 (by decide)
      rw [← List.isEmpty_eq_false_iff] at hne
      refine ⟨bits, ⟨hdigits, hvalue, hlt⟩, ?_⟩
      rw [hne]
      exact ⟨hlegal, rfl⟩

theorem parseFixedBytes_eq_ok_iff {digits : List Char} {text : String} {type : AbiType} :
    parseFixedBytes digits text = .ok type ↔
      ∃ size, IsNumeral digits size ∧ (Elementary.fixedBytes size).IsLegal ∧
        type = .elementary (.fixedBytes size) := by
  rw [parseFixedBytes]
  split
  · rename_i hempty
    refine iff_of_false (by simp [throw, throwThe, MonadExceptOf.throw, bind, Except.bind]) ?_
    rintro ⟨size, h, -⟩
    exact h.ne_nil (List.isEmpty_iff.mp hempty)
  · rename_i hne
    rw [except_bind_eq_ok_iff]
    simp only [readNumber_eq_ok_iff, checked_eq_ok_iff]
    constructor
    · rintro ⟨size, ⟨hdigits, hvalue, -⟩, hlegal, rfl⟩
      exact ⟨size, ⟨fun h => hne (List.isEmpty_iff.mpr h), hdigits, hvalue⟩, hlegal, rfl⟩
    · rintro ⟨size, h, hlegal, rfl⟩
      have hlt : size < word64Bound := Nat.lt_of_le_of_lt hlegal.2 (by decide)
      exact ⟨size, ⟨h.isDigit, h.value, hlt⟩, hlegal, rfl⟩

/-- A text with a numeral in it is none of the words that are written without a number. -/
theorem IsNumeral.ne_word {digits : List Char} {n : Nat} (h : IsNumeral digits n)
    (word : List Char) : keywords.lookup (.ofList (word ++ digits)) = none ∧
      String.ofList (word ++ digits) ≠ "tuple" := by
  obtain ⟨d, hd⟩ := List.exists_mem_of_ne_nil digits h.ne_nil
  have hne : ∀ other : String, other.toList.all (!·.isDigit) = true →
      String.ofList (word ++ digits) ≠ other := by
    rintro _ hall rfl
    rw [String.toList_ofList] at hall
    have hnone := List.all_eq_true.mp hall d (List.mem_append_right word hd)
    rw [h.isDigit d hd] at hnone
    cases hnone
  have hall : ∀ entry ∈ keywords, entry.1.toList.all (!·.isDigit) = true := by decide
  refine ⟨List.lookup_eq_none_iff.mpr fun entry hentry => ?_, hne "tuple" (by decide)⟩
  exact bne_iff_ne.mpr (hne entry.1 (hall entry hentry))

/-- The words that are written without a number are texts of base types. -/
theorem isBaseText_of_mem_keywords {components : Option TupleFields} {entry : String × Elementary}
    (h : entry ∈ keywords) :
    IsBaseText components entry.1.toList (.elementary entry.2) := by
  simp only [keywords, List.mem_cons, List.not_mem_nil, or_false] at h
  rcases h with rfl | rfl | rfl | rfl | rfl
  · exact .address
  · exact .bool
  · exact .string
  · exact .bytes
  · exact .function

/-- What is read as a base type is one. -/
theorem isBaseText_of_parseBase {components : Option TupleFields} {chars : List Char}
    {type : AbiType} (h : parseBase components chars = .ok type) :
    IsBaseText components chars type := by
  have hchars : (String.ofList chars).toList = chars := String.toList_ofList
  revert h
  fun_cases parseBase components chars with
  | case1 _ _ kind hkeyword =>
    intro h
    cases h
    exact hchars ▸ isBaseText_of_mem_keywords (TextMap.mem_of_lookup hkeyword)
  | case2 _ _ htuple fields =>
    intro h
    cases h
    have htext : String.ofList chars = "tuple" := htuple
    rw [htext] at hchars
    exact hchars ▸ .tuple rfl
  | case3 | case7 =>
    intro h
    cases h
  | case4 _ _ _ _ digits hafter =>
    intro h
    rw [afterStart?_eq_some_iff.mp hafter]
    rcases (parseInteger_eq_ok_iff fun _ => Iff.rfl).mp h with ⟨rfl, rfl⟩ | ⟨_, hbits, hlegal, rfl⟩
    · exact .wideUint
    · exact .uint hbits hlegal
  | case5 _ _ _ _ _ digits hafter =>
    intro h
    rw [afterStart?_eq_some_iff.mp hafter]
    rcases (parseInteger_eq_ok_iff fun _ => Iff.rfl).mp h with ⟨rfl, rfl⟩ | ⟨_, hbits, hlegal, rfl⟩
    · exact .wideInt
    · exact .int hbits hlegal
  | case6 _ _ _ _ _ _ digits hafter =>
    intro h
    rw [afterStart?_eq_some_iff.mp hafter]
    obtain ⟨_, hsize, hlegal, rfl⟩ := parseFixedBytes_eq_ok_iff.mp h
    exact .fixedBytes hsize hlegal

/-- The text of a base type is read. -/
theorem parseBase_of_isBaseText {components : Option TupleFields} {chars : List Char}
    {type : AbiType} (h : IsBaseText components chars type) :
    parseBase components chars = .ok type := by
  cases h with
  | address | bool | string | bytes | function | wideUint | wideInt => rfl
  | tuple h =>
    subst h
    rfl
  | @uint digits bits h hlegal =>
    obtain ⟨hkeyword, htuple⟩ := h.ne_word "uint".toList
    simp only [parseBase, hkeyword, htuple, if_false, afterStart?_eq_some_iff.mpr rfl]
    exact (parseInteger_eq_ok_iff fun _ => Iff.rfl).mpr (.inr ⟨bits, h, hlegal, rfl⟩)
  | @int digits bits h hlegal =>
    obtain ⟨hkeyword, htuple⟩ := h.ne_word "int".toList
    have huint : afterStart? "uint".toList ("int".toList ++ digits) = none := rfl
    simp only [parseBase, hkeyword, htuple, if_false, huint, afterStart?_eq_some_iff.mpr rfl]
    exact (parseInteger_eq_ok_iff fun _ => Iff.rfl).mpr (.inr ⟨bits, h, hlegal, rfl⟩)
  | @fixedBytes digits size h hlegal =>
    obtain ⟨hkeyword, htuple⟩ := h.ne_word "bytes".toList
    have huint : afterStart? "uint".toList ("bytes".toList ++ digits) = none := rfl
    have hint : afterStart? "int".toList ("bytes".toList ++ digits) = none := rfl
    simp only [parseBase, hkeyword, htuple, if_false, huint, hint, afterStart?_eq_some_iff.mpr rfl]
    exact parseFixedBytes_eq_ok_iff.mpr ⟨size, h, hlegal, rfl⟩

/-- The text of a base type consists of letters and digits, and there is at least one. -/
theorem IsBaseText.isAlphanum {components : Option TupleFields} {text : List Char} {type : AbiType}
    (h : IsBaseText components text type) :
    text ≠ [] ∧ ∀ c ∈ text, c.isAlphanum = true := by
  have hword : ∀ word : String, word.toList ≠ [] → word.toList.all Char.isAlphanum = true →
      word.toList ≠ [] ∧ ∀ c ∈ word.toList, c.isAlphanum = true := fun _ hne hall =>
    ⟨hne, List.all_eq_true.mp hall⟩
  have hnumeral : ∀ (word : String) {digits : List Char} {n : Nat}, IsNumeral digits n →
      word.toList.all Char.isAlphanum = true →
      word.toList ++ digits ≠ [] ∧ ∀ c ∈ word.toList ++ digits, c.isAlphanum = true := by
    intro word digits n h hall
    refine ⟨List.append_ne_nil_of_right_ne_nil _ h.ne_nil, fun c hc => ?_⟩
    rcases List.mem_append.mp hc with hc | hc
    · exact List.all_eq_true.mp hall c hc
    · rw [Char.isAlphanum, h.isDigit c hc, Bool.or_true]
  cases h with
  | address => exact hword "address" (by decide) (by decide)
  | bool => exact hword "bool" (by decide) (by decide)
  | string => exact hword "string" (by decide) (by decide)
  | bytes => exact hword "bytes" (by decide) (by decide)
  | function => exact hword "function" (by decide) (by decide)
  | tuple h => exact hword "tuple" (by decide) (by decide)
  | wideUint => exact hword "uint" (by decide) (by decide)
  | wideInt => exact hword "int" (by decide) (by decide)
  | uint h => exact hnumeral "uint" h (by decide)
  | int h => exact hnumeral "int" h (by decide)
  | fixedBytes h => exact hnumeral "bytes" h (by decide)

theorem IsBaseText.notMem {components : Option TupleFields} {text : List Char} {type : AbiType}
    (h : IsBaseText components text type) {c : Char} (hc : c.isAlphanum = false) : c ∉ text := by
  intro hmem
  rw [h.isAlphanum.2 c hmem] at hc
  cases hc

/-! ### Blanks around a text -/

section Blanks

variable {lead core trail text : List Char}

/-- A character that is not blank does not occur in a gap. -/
theorem notMem_of_isBlank {gap : List Char} (h : ∀ c ∈ gap, isBlank c = true) {c : Char}
    (hc : isBlank c = false) : c ∉ gap := by
  intro hmem
  rw [h c hmem] at hc
  cases hc

/-- What trimming takes off a text is blank. -/
theorem exists_eq_trimBlanks (text : List Char) :
    ∃ lead trail, text = lead ++ trimBlanks text ++ trail ∧ (∀ c ∈ lead, isBlank c = true) ∧
      ∀ c ∈ trail, isBlank c = true := by
  have hblank : ∀ {part : List Char}, ∀ c ∈ part.takeWhile isBlank, isBlank c = true :=
    fun _ => List.mem_takeWhile_imp
  refine ⟨text.takeWhile isBlank, ((text.dropWhile isBlank).reverse.takeWhile isBlank).reverse,
    ?_, hblank, fun c hc => hblank c (List.mem_reverse.mp hc)⟩
  rw [trimBlanks, List.append_assoc, ← List.reverse_append, List.takeWhile_append_dropWhile,
    List.reverse_reverse, List.takeWhile_append_dropWhile]

/-- A text with **solid ends**: it begins and ends with a character that is not blank. -/
structure HasSolidEnds (text : List Char) : Prop where
  head : ∃ c rest, text = c :: rest ∧ isBlank c = false
  last : ∃ front c, text = front ++ [c] ∧ isBlank c = false

/-- Trimming takes the blanks around a text with solid ends off, and nothing else. -/
theorem trimBlanks_append (hlead : ∀ c ∈ lead, isBlank c = true)
    (htrail : ∀ c ∈ trail, isBlank c = true) (hcore : HasSolidEnds core) :
    trimBlanks (lead ++ core ++ trail) = core := by
  obtain ⟨first, rest, hhead, hfirst⟩ := hcore.head
  obtain ⟨front, last, hback, hlast⟩ := hcore.last
  have hstart : (lead ++ core ++ trail).dropWhile isBlank = core ++ trail := by
    rw [List.append_assoc, List.dropWhile_append_of_pos hlead, hhead, List.cons_append,
      List.dropWhile_cons_of_neg (by simp [hfirst])]
  have hstop : (core ++ trail).reverse.dropWhile isBlank = core.reverse := by
    rw [List.reverse_append, List.dropWhile_append_of_pos fun c hc => htrail c (by simpa using hc),
      hback, List.reverse_append, List.reverse_singleton, List.singleton_append,
      List.dropWhile_cons_of_neg (by simp [hlast])]
  rw [trimBlanks, hstart, hstop, List.reverse_reverse]

end Blanks

/-- The text of a type has solid ends. -/
theorem IsTypeText.hasSolidEnds {plus : Bool} {components : Option TupleFields}
    {text : List Char} {type : AbiType} (h : IsTypeText plus components text type) :
    HasSolidEnds text := by
  induction h with
  | @base text type h =>
    obtain ⟨hne, halphanum⟩ := h.isAlphanum
    have hsolid : ∀ c ∈ text, isBlank c = false := fun c hc =>
      isBlank_of_isAlphanum (halphanum c hc)
    exact {
      head := ⟨_, text.tail, (List.cons_head_tail hne).symm, hsolid _ (List.head_mem hne)⟩
      last := ⟨text.dropLast, _, (List.dropLast_append_getLast hne).symm,
        hsolid _ (List.getLast_mem hne)⟩ }
  | @suffix text gap length element type _ _ _ ih =>
    obtain ⟨c, rest, rfl, hc⟩ := ih.head
    exact ⟨⟨c, rest ++ gap ++ '[' :: length ++ [']'], rfl, hc⟩, ⟨_, ']', rfl, by decide⟩⟩

/-! ### Reading is the grammar -/

/-- A length has no bracket. -/
theorem IsLayer.bracket_notMem {plus : Bool} {length : List Char} {element type : AbiType}
    (h : IsLayer plus length element type) : '[' ∉ length ∧ ']' ∉ length := by
  cases h with
  | slice => exact ⟨List.not_mem_nil, List.not_mem_nil⟩
  | array h =>
    obtain ⟨digits, h, -, rfl | ⟨-, rfl⟩⟩ := h
    · exact ⟨h.notMem (by decide), h.notMem (by decide)⟩
    · have hopen : '[' ∉ digits := h.notMem (by decide)
      have hclose : ']' ∉ digits := h.notMem (by decide)
      simp [hopen, hclose]

/-- A text that ends in a bracket group but for blanks is read as the element before the group, and
then the group. -/
theorem parseChars_of_trimBlanks {components : Option TupleFields}
    {text element length : List Char} (htrim : trimBlanks text = element ++ '[' :: length ++ [']'])
    (hlength : '[' ∉ length) :
    parseChars components text =
      parseChars components element >>= wrapSuffix length (trimBlanks text) := by
  rw [parseChars, if_pos (by rw [htrim, List.getLast?_concat])]
  split
  · rename_i hcut
    rw [htrim, List.dropLast_concat, cutAtLast_append hlength] at hcut
    cases hcut
  · rename_i hcut
    rw [htrim, List.dropLast_concat, cutAtLast_append hlength] at hcut
    cases hcut
    rfl

/-- What is read is what the text denotes. -/
theorem denotes_of_parseChars {components : Option TupleFields} {text : List Char}
    {type : AbiType} (h : parseChars components text = .ok type) :
    Denotes true components text type := by
  fun_induction parseChars components text generalizing type with
  | case1 => cases h
  | case2 text =>
    rename_i hlast element length hcut ih
    obtain ⟨inner, hinner, hwrap⟩ := except_bind_eq_ok_iff.mp h
    obtain ⟨lead, trail, htext, hlead, htrail⟩ := exists_eq_trimBlanks text
    obtain ⟨first, core, gap, rfl, hfirst, hgap, hcore⟩ := ih hinner
    have hgroup : trimBlanks text = first ++ core ++ gap ++ '[' :: length ++ [']'] := by
      rw [← (eq_of_cutAtLast hcut).1]
      exact (List.dropLast_append_getLast? ']' hlast).symm
    -- the blanks that were left at the start belong to the blanks around the whole
    refine ⟨lead ++ first, core ++ gap ++ '[' :: length ++ [']'], trail, ?_,
      List.forall_mem_append.mpr ⟨hlead, hfirst⟩, htrail,
      hcore.suffix hgap (wrapSuffix_eq_ok_iff.mp hwrap)⟩
    rw [htext, hgroup]
    simp only [List.append_assoc]
  | case3 text =>
    obtain ⟨lead, trail, htext, hlead, htrail⟩ := exists_eq_trimBlanks text
    exact ⟨lead, trimBlanks text, trail, htext, hlead, htrail, .base (isBaseText_of_parseBase h)⟩

/-- What a text denotes is read from it. -/
theorem parseChars_of_isTypeText {components : Option TupleFields} {core : List Char}
    {type : AbiType} (h : IsTypeText true components core type) {lead trail : List Char}
    (hlead : ∀ c ∈ lead, isBlank c = true) (htrail : ∀ c ∈ trail, isBlank c = true) :
    parseChars components (lead ++ core ++ trail) = .ok type := by
  -- the blanks are general, since those before a suffix end the text of the element
  induction h generalizing lead trail with
  | @base text type h =>
    have hcore : IsTypeText true components text type := .base h
    have htrim := trimBlanks_append hlead htrail hcore.hasSolidEnds
    have hlast : text.getLast? ≠ some ']' := fun hlast =>
      h.notMem (by decide) (List.mem_of_getLast? hlast)
    rw [parseChars, htrim, if_neg hlast]
    exact parseBase_of_isBaseText h
  | @suffix text gap length element type h hgap hlayer ih =>
    have htrim := trimBlanks_append hlead htrail (h.suffix hgap hlayer).hasSolidEnds
    have helement : parseChars components ([] ++ text ++ gap) = .ok element :=
      ih (fun _ hc => absurd hc List.not_mem_nil) hgap
    rw [List.nil_append] at helement
    rw [parseChars_of_trimBlanks htrim hlayer.bracket_notMem.1, helement]
    exact wrapSuffix_eq_ok_iff.mpr hlayer

theorem parseChars_eq_ok_iff {components : Option TupleFields} {text : List Char}
    {type : AbiType} :
    parseChars components text = .ok type ↔ Denotes true components text type := by
  refine ⟨denotes_of_parseChars, ?_⟩
  rintro ⟨lead, core, trail, rfl, hlead, htrail, hcore⟩
  exact parseChars_of_isTypeText hcore hlead htrail

/-! ### Plus signs -/

section Plus

variable {components : Option TupleFields} {type : AbiType}

/-- Without a plus sign, the two kinds of layers are the same. -/
theorem isLayer_false_iff {length : List Char} {element : AbiType} :
    IsLayer false length element type ↔ IsLayer true length element type ∧ '+' ∉ length := by
  constructor
  · rintro (_ | ⟨digits, h, hlt, rfl | ⟨hplus, -⟩⟩)
    · exact ⟨.slice, List.not_mem_nil⟩
    · exact ⟨.array ⟨length, h, hlt, .inl rfl⟩, h.notMem (by decide)⟩
    · cases hplus
  · rintro ⟨_ | ⟨digits, h, hlt, rfl | ⟨-, rfl⟩⟩, hfree⟩
    · exact .slice
    · exact .array ⟨length, h, hlt, .inl rfl⟩
    · exact absurd List.mem_cons_self hfree

theorem isTypeText_false_iff {text : List Char} :
    IsTypeText false components text type ↔
      IsTypeText true components text type ∧ '+' ∉ text := by
  constructor
  · intro h
    induction h with
    | base h => exact ⟨.base h, h.notMem (by decide)⟩
    | @suffix text gap _ _ _ _ hgap hlayer ih =>
      obtain ⟨hlayer, hlength⟩ := isLayer_false_iff.mp hlayer
      have hfree : '+' ∉ gap := notMem_of_isBlank hgap (by decide)
      refine ⟨ih.1.suffix hgap hlayer, ?_⟩
      simp [ih.2, hfree, hlength]
  · rintro ⟨h, hfree⟩
    induction h with
    | base h => exact .base h
    | suffix _ hgap hlayer ih =>
      simp only [List.mem_append, List.mem_cons, not_or] at hfree
      obtain ⟨⟨⟨htext, -⟩, -, hlength⟩, -⟩ := hfree
      exact (ih htext).suffix hgap (isLayer_false_iff.mpr ⟨hlayer, hlength⟩)

/-- The stricter grammar is the other one for texts without a plus sign. -/
theorem denotes_false_iff {text : List Char} :
    Denotes false components text type ↔ Denotes true components text type ∧ '+' ∉ text := by
  constructor
  · rintro ⟨lead, core, trail, rfl, hlead, htrail, hcore⟩
    obtain ⟨hcore, hfree⟩ := isTypeText_false_iff.mp hcore
    have hfirst : '+' ∉ lead := notMem_of_isBlank hlead (by decide)
    have hlast : '+' ∉ trail := notMem_of_isBlank htrail (by decide)
    refine ⟨⟨lead, core, trail, rfl, hlead, htrail, hcore⟩, ?_⟩
    simp [hfirst, hfree, hlast]
  · rintro ⟨⟨lead, core, trail, rfl, hlead, htrail, hcore⟩, hfree⟩
    simp only [List.mem_append, not_or] at hfree
    exact ⟨lead, core, trail, rfl, hlead, htrail, isTypeText_false_iff.mpr ⟨hcore, hfree.1.2⟩⟩

end Plus

/-! ### Brackets -/

/-- What may stand between the brackets of a suffix. -/
def IsSuffixLength (length : List Char) : Prop :=
  length = [] ∨ ∃ size, IsLengthText true length size

/-- **Paired brackets**: every bracket of the text belongs to a suffix. -/
structure BracketsPaired (text : List Char) : Prop where
  /-- Behind an opening bracket there are a length and a closing one. -/
  opened : ∀ before after, text = before ++ '[' :: after →
    ∃ length rest, after = length ++ ']' :: rest ∧ IsSuffixLength length
  /-- Before a closing bracket there are a length and an opening one. -/
  closed : ∀ before after, text = before ++ ']' :: after →
    ∃ front length, before = front ++ '[' :: length ∧ IsSuffixLength length

/-- A mark in a text of two parts is in one of the parts. -/
theorem append_eq_append_cons {front back before after : List Char} {mark : Char}
    (h : front ++ back = before ++ mark :: after) :
    (∃ behind, front = before ++ mark :: behind ∧ after = behind ++ back) ∨
      ∃ gap, before = front ++ gap ∧ back = gap ++ mark :: after := by
  rcases List.append_eq_append_iff.mp h with hback | ⟨_ | ⟨c, behind⟩, hfront, hmark⟩
  · exact .inr hback
  · exact .inr ⟨[], by simpa using hfront.symm, hmark.symm⟩
  · obtain ⟨rfl, rfl⟩ := List.cons.inj hmark
    exact .inl ⟨behind, hfront, rfl⟩

namespace BracketsPaired

variable {text other length : List Char}

theorem of_notMem (hopen : '[' ∉ text) (hclose : ']' ∉ text) : BracketsPaired text where
  opened := by
    rintro before after rfl
    exact absurd (List.mem_append_right before List.mem_cons_self) hopen
  closed := by
    rintro before after rfl
    exact absurd (List.mem_append_right before List.mem_cons_self) hclose

theorem append (h : BracketsPaired text) (hother : BracketsPaired other) :
    BracketsPaired (text ++ other) where
  opened before after heq := by
    rcases append_eq_append_cons heq with ⟨behind, htext, rfl⟩ | ⟨gap, -, hmark⟩
    · obtain ⟨length, rest, rfl, hlength⟩ := h.opened before behind htext
      exact ⟨length, rest ++ other, by simp, hlength⟩
    · exact hother.opened gap after hmark
  closed before after heq := by
    rcases append_eq_append_cons heq with ⟨behind, htext, -⟩ | ⟨gap, rfl, hmark⟩
    · exact h.closed before behind htext
    · obtain ⟨front, length, rfl, hlength⟩ := hother.closed gap after hmark
      exact ⟨text ++ front, length, by simp, hlength⟩

theorem group (h : IsSuffixLength length) (hopen : '[' ∉ length) (hclose : ']' ∉ length) :
    BracketsPaired ('[' :: length ++ [']']) where
  opened before after heq := by
    cases before with
    | nil => exact ⟨length, [], (List.cons.inj heq).2.symm, h⟩
    | cons c rest =>
      have hrest : length ++ [']'] = rest ++ '[' :: after := (List.cons.inj heq).2
      have hmem : '[' ∈ length ++ [']'] :=
        hrest ▸ List.mem_append_right rest List.mem_cons_self
      simp [hopen] at hmem
  closed before after heq := by
    rcases append_eq_append_cons heq with ⟨behind, hmark, -⟩ | ⟨gap, rfl, hmark⟩
    · have hmem : ']' ∈ '[' :: length :=
        hmark ▸ List.mem_append_right before List.mem_cons_self
      simp [hclose] at hmem
    · have hgap : gap = [] := by
        have hlength := congrArg List.length hmark
        simp only [List.length_cons, List.length_append, List.length_nil] at hlength
        exact List.length_eq_zero_iff.mp (by omega)
      exact ⟨[], length, by simp [hgap], h⟩

end BracketsPaired

/-- Every bracket of a text that denotes a type belongs to a suffix. -/
theorem Denotes.bracketsPaired {components : Option TupleFields} {text : List Char}
    {type : AbiType} (h : Denotes true components text type) : BracketsPaired text := by
  have hblank : ∀ {gap : List Char}, (∀ c ∈ gap, isBlank c = true) → BracketsPaired gap :=
    fun h => .of_notMem (notMem_of_isBlank h (by decide)) (notMem_of_isBlank h (by decide))
  obtain ⟨lead, core, trail, rfl, hlead, htrail, hcore⟩ := h
  refine ((hblank hlead).append ?_).append (hblank htrail)
  induction hcore with
  | base h => exact .of_notMem (h.notMem (by decide)) (h.notMem (by decide))
  | @suffix text gap length element type _ hgap hlayer ih =>
    have hlength : IsSuffixLength length := by
      cases hlayer with
      | slice => exact .inl rfl
      | array h => exact .inr ⟨_, h⟩
    obtain ⟨hopen, hclose⟩ := hlayer.bracket_notMem
    rw [List.append_assoc]
    exact (ih.append (hblank hgap)).append (.group hlength hopen hclose)

/-! ### The texts that are read -/

/-- **Reading is the grammar**: a text is read if and only if it denotes a type, and as that type,
where a plus sign may stand before the length of an array; the texts of the stricter grammar are
those without one. A text with a bracket that belongs to no suffix is rejected. -/
theorem parse_eq_ok_iff_denotes (text : String) (components : Option TupleFields) :
    (∀ type, parse text components = .ok type ↔ Denotes true components text.toList type) ∧
    (∀ type, Denotes false components text.toList type ↔
      parse text components = .ok type ∧ '+' ∉ text.toList) ∧
    (¬BracketsPaired text.toList → ∃ fault, parse text components = .error fault) := by
  have hread : ∀ type, parse text components = .ok type ↔
      Denotes true components text.toList type := fun type => parseChars_eq_ok_iff
  refine ⟨hread, fun type => ?_, fun hbrackets => ?_⟩
  · rw [hread, denotes_false_iff]
  · cases hparse : parse text components with
    | error fault => exact ⟨fault, rfl⟩
    | ok type => exact absurd ((hread type).mp hparse).bracketsPaired hbrackets

theorem parse_eq_ok_iff_denotes_unopened :
    ¬BracketsPaired "uint8]".toList ∧ ∃ fault, parse "uint8]" none = .error fault := by
  have hbrackets : ¬BracketsPaired "uint8]".toList := fun h => by
    obtain ⟨front, length, hopen, -⟩ := h.closed "uint8".toList [] rfl
    have hmem : '[' ∈ "uint8".toList := hopen ▸ List.mem_append_right front List.mem_cons_self
    exact absurd hmem (by decide)
  exact ⟨hbrackets, (parse_eq_ok_iff_denotes "uint8]" none).2.2 hbrackets⟩

/-- A length with a plus sign is read, although it is no run of digits. -/
theorem not_denotes_plusFive :
    parse "uint8[+5]" none = .ok (.array (.elementary (.uint 8)) 5) ∧
      ¬∃ type, Denotes false none "uint8[+5]".toList type := by
  have height : IsNumeral ['8'] 8 := ⟨by decide, List.forall_mem_singleton.mpr rfl, rfl⟩
  have hfive : IsLengthText true ['+', '5'] 5 :=
    ⟨['5'], ⟨by decide, List.forall_mem_singleton.mpr rfl, rfl⟩, by decide, .inr ⟨rfl, rfl⟩⟩
  have hbase : IsBaseText none ("uint".toList ++ ['8']) (.elementary (.uint 8)) :=
    .uint height (by decide)
  have htext := IsTypeText.brackets (.base hbase) (.array hfive)
  refine ⟨parseChars_eq_ok_iff.mpr ⟨[], _, [], by decide, by simp, by simp, htext⟩, ?_⟩
  rintro ⟨type, h⟩
  exact (denotes_false_iff.mp h).2 (by decide)

end AbiType

end ContractBindings
