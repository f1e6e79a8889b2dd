/-!
# Numerals

Reading and writing natural numbers. `decimalValue` and `digitValue?` give digits their
value, `word64?` reads the numeral of a 64-bit word, and `hexText` writes in base sixteen. The
decimal numeral consists of digits, tells numbers apart and is read back.
-/

namespace ContractBindings

/-- The largest number of a 64-bit word, plus one. -/
def word64Bound : Nat := 0x10000000000000000

/-- The value of a digit in bases up to 36, capital or small. -/
def digitValue? (c : Char) : Option Nat :=
  if '0' ≤ c ∧ c ≤ '9' then some (c.toNat - '0'.toNat)
  else if 'a' ≤ c ∧ c ≤ 'z' then some (c.toNat - 'a'.toNat + 10)
  else if 'A' ≤ c ∧ c ≤ 'Z' then some (c.toNat - 'A'.toNat + 10)
  else none

/-- The value of a digit of the given base. -/
def digitBelow? (base : Nat) (c : Char) : Option Nat :=
  (digitValue? c).filter (· < base)

/-- The number that a list of digit values denotes, the most significant first. -/
def positional (base : Nat) (digits : List Nat) : Nat :=
  digits.foldl (fun value digit => base * value + digit) 0

/-- The value of a run of decimal digits. -/
def decimalValue (digits : List Char) : Nat :=
  positional 10 (digits.map fun d => d.toNat - '0'.toNat)

/-- The value of a numeral below `2 ^ 64`: one or more decimal digits, after a plus sign if
there is one. -/
def word64? (text : List Char) : Option Nat :=
  let digits :=
    match text with
    | '+' :: rest => rest
    | _ => text
  if digits ≠ [] ∧ digits.all Char.isDigit ∧ decimalValue digits < word64Bound then
    some (decimalValue digits)
  else
    none

/-- The decimal numeral of a number. -/
def decimalText (n : Nat) : List Char := Nat.toDigits 10 n

theorem isDigit_of_mem_decimalText {n : Nat} {c : Char} (h : c ∈ decimalText n) :
    c.isDigit = true :=
  Nat.isDigit_of_mem_toDigits (by decide) (by decide) h

/-- A character that is no digit does not occur in a numeral. -/
theorem notMem_decimalText {c : Char} (hc : c.isDigit = false) (n : Nat) :
    c ∉ decimalText n := by
  intro hmem
  rw [isDigit_of_mem_decimalText hmem] at hc
  exact absurd hc (by decide)

/-- The decimal numeral tells numbers apart. -/
theorem decimalText_injective {m n : Nat} (h : decimalText m = decimalText n) : m = n := by
  rw [decimalText, decimalText] at h
  rw [← Nat.ofDigitChars_ten_toDigits (n := m), h, Nat.ofDigitChars_ten_toDigits]

theorem decimalText_ne_nil (n : Nat) : decimalText n ≠ [] := Nat.toDigits_ne_nil

/-- The decimal numeral is read back. -/
theorem decimalValue_decimalText (n : Nat) : decimalValue (decimalText n) = n := by
  rw [decimalValue, positional, List.foldl_map]
  exact Nat.ofDigitChars_ten_toDigits

theorem toNat_of_isDigit {c : Char} (h : c.isDigit = true) : 48 ≤ c.toNat ∧ c.toNat ≤ 57 := by
  simpa [Char.isDigit, UInt32.le_iff_toNat_le] using h

/-- The hexadecimal numeral of a number, without leading zeros. -/
def hexText (n : Nat) : List Char := Nat.toDigits 16 n

/-- The hexadecimal numeral of a number, filled up with zeros to a given width. -/
def hexTextWide (width n : Nat) : List Char :=
  let digits := hexText n
  List.replicate (width - digits.length) '0' ++ digits

end ContractBindings
