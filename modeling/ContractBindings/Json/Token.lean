import ContractBindings.Text.Numeral

/-!
# Tokens of JSON text

`Token.scanOne` takes the first token off a JSON text. Between tokens stand blanks: space,
tab, line feed and carriage return. A number and a string are kept as they are written, since
what they denote is asked for only where they are used: a number that is too large, or half of
a surrogate pair, is a fault of the value and not of the grammar.

* `NumberLiteral.byte?` — the byte that a number denotes;
* `unitText?` — the text that a string denotes.
-/

namespace ContractBindings

/-- **Number literal**: its parts as they are written. -/
structure NumberLiteral where
  /-- Whether a minus sign comes first. -/
  negative : Bool
  /-- The digits before the point. -/
  whole : List Char
  /-- The digits after the point; none when there is no point. -/
  fraction : List Char
  /-- The exponent of ten, if one is written. -/
  exponent : Option Int

/-- The byte that a literal denotes: a natural number below 256, written with nothing but
digits. -/
def NumberLiteral.byte? (literal : NumberLiteral) : Option UInt8 :=
  let value := decimalValue literal.whole
  if !literal.negative && literal.fraction.isEmpty && literal.exponent.isNone &&
      decide (value < 256) then
    some (UInt8.ofNat value)
  else
    none

/-- One unit of a string: a character, or a 16-bit unit written by its number. -/
inductive StringUnit where
  /-- A character. -/
  | char (c : Char)
  /-- A 16-bit unit written behind `\u`. -/
  | unit16 (value : Nat)
  deriving DecidableEq

/-! ### The text of a string -/

/-- The first half of a surrogate pair. -/
def isHighSurrogate (unit : Nat) : Bool := 0xD800 ≤ unit && unit < 0xDC00

/-- The second half of a surrogate pair. -/
def isLowSurrogate (unit : Nat) : Bool := 0xDC00 ≤ unit && unit < 0xE000

/-- The character that a pair of 16-bit units stands for. -/
def surrogatePair? (high low : Nat) : Option Char :=
  if isHighSurrogate high && isLowSurrogate low then
    some (Char.ofNat (0x10000 + (high - 0xD800) * 0x400 + (low - 0xDC00)))
  else
    none

/-- The characters of a string, if its units pair up. -/
def unitChars? : List StringUnit → Option (List Char)
  | [] => some []
  | .char c :: rest => (unitChars? rest).map (c :: ·)
  | .unit16 unit :: rest =>
    if isHighSurrogate unit || isLowSurrogate unit then
      match rest with
      | .unit16 low :: rest => do
        let c ← surrogatePair? unit low
        return c :: (← unitChars? rest)
      | _ => none
    else
      (unitChars? rest).map (Char.ofNat unit :: ·)

/-- The text of a string, if its units pair up. -/
def unitText? (units : List StringUnit) : Option String :=
  (unitChars? units).map String.ofList

/-! ### Tokens -/

/-- **Token** of JSON text. -/
inductive Token where
  /-- An opening bracket. -/
  | openArray
  /-- A closing bracket. -/
  | closeArray
  /-- An opening brace. -/
  | openObject
  /-- A closing brace. -/
  | closeObject
  /-- A comma. -/
  | comma
  /-- A colon. -/
  | colon
  /-- The word for null. -/
  | null
  /-- The word for a truth value. -/
  | bool (value : Bool)
  /-- A number. -/
  | number (literal : NumberLiteral)
  /-- A string. -/
  | string (units : List StringUnit)

namespace Token

/-! ### Reading strings -/

/-- The character that a letter behind a backslash stands for. -/
def shortEscape? : Char → Option Char
  | '"' => some '"'
  | '\\' => some '\\'
  | '/' => some '/'
  | 'b' => some '\x08'
  | 'f' => some '\x0c'
  | 'n' => some '\n'
  | 'r' => some '\r'
  | 't' => some '\t'
  | _ => none

/-- The number that four digits of base sixteen denote. -/
def fourDigits? (a b c d : Char) : Option Nat := do
  let digits ← [a, b, c, d].mapM (digitBelow? 16)
  return positional 16 digits

/-- Reads a string behind its opening quote, and gives what follows the closing one. -/
def scanString : List Char → Option (List StringUnit × List Char)
  | [] => none
  | '"' :: rest => some ([], rest)
  | '\\' :: 'u' :: a :: b :: c :: d :: rest => do
    let value ← fourDigits? a b c d
    let (units, rest) ← scanString rest
    return (.unit16 value :: units, rest)
  | '\\' :: letter :: rest => do
    let c ← shortEscape? letter
    let (units, rest) ← scanString rest
    return (.char c :: units, rest)
  | c :: rest =>
    if c = '\\' ∨ c.toNat < 0x20 then none
    else do
      let (units, rest) ← scanString rest
      return (.char c :: units, rest)

/-! ### Reading numbers -/

/-- A run of digits and what follows it. -/
def scanDigits (text : List Char) : List Char × List Char :=
  (text.takeWhile Char.isDigit, text.dropWhile Char.isDigit)

/-- A run of at least one digit and what follows it. -/
def scanDigits? (text : List Char) : Option (List Char × List Char) :=
  let (digits, rest) := scanDigits text
  if digits.isEmpty then none else some (digits, rest)

/-- The digits before the point: a zero alone, or a run that starts with another digit. -/
def scanWhole : List Char → Option (List Char × List Char)
  | '0' :: rest => some (['0'], rest)
  | text => scanDigits? text

/-- The digits after a point, if a point comes next. -/
def scanFraction : List Char → Option (List Char × List Char)
  | '.' :: rest => scanDigits? rest
  | text => some ([], text)

/-- The signed digits of an exponent. -/
def scanSigned : List Char → Option (Int × List Char)
  | '-' :: rest => (scanDigits? rest).map fun (digits, rest) => (-decimalValue digits, rest)
  | '+' :: rest => (scanDigits? rest).map fun (digits, rest) => (decimalValue digits, rest)
  | text => (scanDigits? text).map fun (digits, rest) => (decimalValue digits, rest)

/-- The exponent, if its letter comes next. -/
def scanExponent : List Char → Option (Option Int × List Char)
  | 'e' :: rest => (scanSigned rest).map fun (value, rest) => (some value, rest)
  | 'E' :: rest => (scanSigned rest).map fun (value, rest) => (some value, rest)
  | text => some (none, text)

/-- Reads a number behind its sign. -/
def scanNumber (negative : Bool) (text : List Char) : Option (NumberLiteral × List Char) := do
  let (whole, rest) ← scanWhole text
  let (fraction, rest) ← scanFraction rest
  let (exponent, rest) ← scanExponent rest
  return (⟨negative, whole, fraction, exponent⟩, rest)

/-! ### Reading tokens -/

/-- A blank of JSON text. -/
def isSpace (c : Char) : Bool := c == ' ' || c == '\t' || c == '\n' || c == '\r'

/-- Reads the token that comes first in a text that starts with no blank. -/
def scanOne : List Char → Option (Token × List Char)
  | [] => none
  | '[' :: rest => some (.openArray, rest)
  | ']' :: rest => some (.closeArray, rest)
  | '\x7b' :: rest => some (.openObject, rest)
  | '\x7d' :: rest => some (.closeObject, rest)
  | ',' :: rest => some (.comma, rest)
  | ':' :: rest => some (.colon, rest)
  | 'n' :: 'u' :: 'l' :: 'l' :: rest => some (.null, rest)
  | 't' :: 'r' :: 'u' :: 'e' :: rest => some (.bool true, rest)
  | 'f' :: 'a' :: 'l' :: 's' :: 'e' :: rest => some (.bool false, rest)
  | '"' :: rest => (scanString rest).map fun (units, rest) => (.string units, rest)
  | '-' :: rest => (scanNumber true rest).map fun (literal, rest) => (.number literal, rest)
  | text => (scanNumber false text).map fun (literal, rest) => (.number literal, rest)

end Token

end ContractBindings
