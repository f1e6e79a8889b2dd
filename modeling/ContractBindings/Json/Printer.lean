import ContractBindings.Decimal.Shortest
import ContractBindings.Json.Value

/-!
# Compact JSON text

`Json.compact` writes a value without any space between its parts. In strings the quote, the
backslash and the control characters are escaped and nothing else. A floating-point number
has its shortest decimal: written out where the first digit has a place from `10 ^ -5` to
`10 ^ 15`, always with a point, and with a signed exponent elsewhere.
-/

namespace ContractBindings

/-! ### Strings -/

/-- A character as it stands inside a string. -/
def escapeJsonChar (c : Char) : List Char :=
  if c = '"' then ['\\', '"']
  else if c = '\\' then ['\\', '\\']
  else if c = '\n' then ['\\', 'n']
  else if c = '\r' then ['\\', 'r']
  else if c = '\t' then ['\\', 't']
  else if c.toNat = 8 then ['\\', 'b']
  else if c.toNat = 12 then ['\\', 'f']
  else if c.toNat < 0x20 then '\\' :: 'u' :: hexTextWide 4 c.toNat
  else [c]

/-- A string with its quotes. -/
def jsonStringText (text : String) : List Char :=
  '"' :: text.toList.flatMap escapeJsonChar ++ ['"']

/-! ### Numbers -/

/-- Writes a decimal out or with an exponent, as its place demands. -/
def Decimal.jsonText (d : Decimal) : List Char :=
  if -5 ≤ d.exponent ∧ d.exponent < 0 then
    '0' :: '.' :: List.replicate (-d.exponent - 1).toNat '0' ++ d.digits
  else if 0 ≤ d.exponent ∧ d.exponent ≤ 15 then
    let whole := d.exponent.toNat + 1
    let fraction := d.digits.drop whole
    d.digits.take whole ++ List.replicate (whole - d.digits.length) '0' ++
      '.' :: if fraction.isEmpty then ['0'] else fraction
  else
    let mantissa :=
      match d.digits with
      | first :: second :: rest => first :: '.' :: second :: rest
      | short => short
    let sign := if d.exponent < 0 then '-' else '+'
    mantissa ++ 'e' :: sign :: decimalText d.exponent.natAbs

/-- A floating-point number. -/
def floatText (x : Float) : List Char :=
  let sign := if x.toBits.toNat < Nat.pow 2 63 then [] else ['-']
  if !x.isFinite then "null".toList
  else if x == 0 then sign ++ "0.0".toList
  else sign ++ (Dyadic.ofFloat x).shortest.jsonText

/-- The text of a number. -/
def JsonNumber.text : JsonNumber → List Char
  | .integer value => (if value < 0 then ['-'] else []) ++ decimalText value.natAbs
  | .float value => floatText value

/-! ### Values -/

namespace Json

mutual

/-- The characters of the compact text of a value. -/
def chars : Json → List Char
  | .null => "null".toList
  | .bool true => "true".toList
  | .bool false => "false".toList
  | .number value => value.text
  | .string value => jsonStringText value
  | .array items => '[' :: itemChars items ++ [']']
  | .object members => '\x7b' :: memberChars members ++ ['\x7d']

/-- The items of an array, with commas between them. -/
def itemChars : List Json → List Char
  | [] => []
  | [item] => chars item
  | item :: next :: rest => chars item ++ ',' :: itemChars (next :: rest)

/-- The members of an object, with commas between them. -/
def memberChars : List (String × Json) → List Char
  | [] => []
  | [(name, value)] => jsonStringText name ++ ':' :: chars value
  | (name, value) :: next :: rest =>
    jsonStringText name ++ ':' :: chars value ++ ',' :: memberChars (next :: rest)

end

/-- The compact text of a value. -/
def compact (value : Json) : String := .ofList value.chars

end Json

end ContractBindings
