import ContractBindings.Error
import ContractBindings.Text.Blank
import ContractBindings.Text.Cut
import ContractBindings.Text.Numeral

/-!
# Reading ABI types

`AbiType.parse` reads a type such as `uint256`, `bytes32[4]` or `tuple[]`. The text is a base
type followed by array suffixes `[]` and `[n]`, the leftmost one innermost; blanks around the
whole and before a suffix do not count. The base `tuple` stands for the components that are
given beside the text.

The suffixes are taken off from the right. The layer below is read before a suffix's length,
so of two faults the inner one is reported.
-/

namespace ContractBindings

namespace AbiType

/-! ### Base types -/

/-- The width of an integer type that is written without one. -/
def defaultIntegerBits : Nat := 256

/-- The elementary types that are written without a number. -/
def keywords : List (String × Elementary) :=
  [("address", .address), ("bool", .bool), ("string", .string), ("bytes", .bytes),
   ("function", .function)]

/-- A type of legal width. -/
def checked (kind : Elementary) : Except BindError AbiType :=
  match kind.checkWidth with
  | .ok kind => .ok (.elementary kind)
  | .error fault => .error (.malformedType (.width fault))

/-- The number written by `digits`, a run of digits that may be empty. -/
def readNumber (digits : List Char) (notDigits tooLarge : TypeFault) :
    Except BindError Nat :=
  if !digits.all Char.isDigit then .error (.malformedType notDigits)
  else if decimalValue digits < word64Bound then .ok (decimalValue digits)
  else .error (.malformedType tooLarge)

/-- Reads an integer type, given its constructor and what follows `int` or `uint`. -/
def parseInteger (make : Nat → Elementary) (digits : List Char) (text : String) :
    Except BindError AbiType := do
  let bits ← readNumber digits (.noIntegerWidth text) (.hugeIntegerWidth text)
  checked (make (if digits.isEmpty then defaultIntegerBits else bits))

/-- Reads a byte sequence of fixed size, given what follows `bytes`. -/
def parseFixedBytes (digits : List Char) (text : String) : Except BindError AbiType := do
  if digits.isEmpty then
    throw (.malformedType (.noFixedBytesSize text))
  let size ← readNumber digits (.noFixedBytesSize text) (.hugeFixedBytesSize text)
  checked (.fixedBytes size)

/-- Reads a base type. -/
def parseBase (components : Option TupleFields) (chars : List Char) :
    Except BindError AbiType :=
  let text := String.ofList chars
  match keywords.lookup text with
  | some kind => .ok (.elementary kind)
  | none =>
    if text = "tuple" then
      match components with
      | some fields => .ok (.tuple fields)
      | none => .error (.invalidAbi .tupleWithoutComponents)
    else
      match afterStart? "uint".toList chars with
      | some digits => parseInteger .uint digits text
      | none =>
        match afterStart? "int".toList chars with
        | some digits => parseInteger .int digits text
        | none =>
          match afterStart? "bytes".toList chars with
          | some digits => parseFixedBytes digits text
          | none => .error (.malformedType (.unknownBase text))

/-! ### Array suffixes -/

/-- The layer that a suffix puts around a type, given what stands between its brackets. -/
def wrapSuffix (length : List Char) (text : List Char) (element : AbiType) :
    Except BindError AbiType :=
  if length.isEmpty then .ok (.slice element)
  else
    match word64? length with
    | some size => .ok (.array element size)
    | none => .error (.malformedType (.arrayLength (.ofList length) (.ofList text)))

/-- Cutting the last suffix off a text leaves a shorter one. -/
theorem length_lt_of_cutSuffix {text before after : List Char}
    (h : cutAtLast '[' (trimBlanks text).dropLast = some (before, after)) :
    before.length < text.length := by
  have cut := length_lt_of_cutAtLast h
  have trimmed := length_trimBlanks_le text
  rw [List.length_dropLast] at cut
  omega

/-- Reads a type; `components` are the fields of the tuple that it may name. -/
def parseChars (components : Option TupleFields) (text : List Char) :
    Except BindError AbiType :=
  let trimmed := trimBlanks text
  if trimmed.getLast? = some ']' then
    match _h : cutAtLast '[' trimmed.dropLast with
    | none => .error (.malformedType (.unbalancedSuffix (.ofList trimmed)))
    | some (element, length) =>
      parseChars components element >>= wrapSuffix length trimmed
  else
    parseBase components trimmed
termination_by text.length
decreasing_by exact length_lt_of_cutSuffix _h

/-- Reads the text of a type; `components` are the fields of the tuple that it may name. -/
def parse (text : String) (components : Option TupleFields) : Except BindError AbiType :=
  parseChars components text.toList

end AbiType

end ContractBindings
