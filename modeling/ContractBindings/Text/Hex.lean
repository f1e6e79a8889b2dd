import ContractBindings.Text.Numeral

/-!
# Bytes in base sixteen

`hexOfBytes` writes two small digits for every byte. `bytesOfHex?` reads pairs of digits,
capital or small, behind a mark `0x` or `0X` if there is one.
-/

namespace ContractBindings

/-- The two digits of a byte. -/
def hexOfByte (byte : UInt8) : List Char := hexTextWide 2 byte.toNat

/-- The digits of a byte sequence. -/
def hexOfBytes (bytes : List UInt8) : List Char := bytes.flatMap hexOfByte

/-- The digits of a byte sequence behind the mark `0x`. -/
def hexLiteral (bytes : List UInt8) : String := .ofList ('0' :: 'x' :: hexOfBytes bytes)

/-- The bytes of a run of digit pairs. -/
def bytesOfDigits? : List Char → Option (List UInt8)
  | [] => some []
  | high :: low :: rest => do
    let h ← digitBelow? 16 high
    let l ← digitBelow? 16 low
    return UInt8.ofNat (16 * h + l) :: (← bytesOfDigits? rest)
  | [_] => none

/-- The bytes of a run of digit pairs, behind a mark if there is one. -/
def bytesOfHex? : List Char → Option (List UInt8)
  | '0' :: 'x' :: digits => bytesOfDigits? digits
  | '0' :: 'X' :: digits => bytesOfDigits? digits
  | digits => bytesOfDigits? digits

end ContractBindings
