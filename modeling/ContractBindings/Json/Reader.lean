import ContractBindings.Json.Document
import ContractBindings.Json.Value

/-!
# Reading JSON values

What a document denotes. A string denotes a text if its 16-bit units pair up to characters.
A number without a fraction and an exponent denotes an integer from `-2 ^ 63` to
`2 ^ 64 - 1`; any other number denotes a floating-point number and must not be too large for
one. Arrays and objects may be nested up to a **depth**, which is given as the number of
levels that are still allowed. In an object the last member of a name counts, and the members
are listed in ascending order of their names.
-/

namespace ContractBindings

/-! ### Numbers -/

namespace NumberLiteral

/-- The digits that go into a significand: as many of `digits` behind `significand` as a
64-bit word takes. Gives the word and the digits left over. -/
def fillWord (significand : Nat) : List Char → Nat × List Char
  | [] => (significand, [])
  | digit :: rest =>
    let next := 10 * significand + (digit.toNat - '0'.toNat)
    if next < word64Bound then fillWord next rest else (significand, digit :: rest)

/-- The largest power of ten that is a floating-point number. -/
def largestPower : Nat := 308

/-- A power of ten. -/
def powerOfTen (exponent : Nat) : Float := Float.ofScientific 1 false exponent

/-- Divides by a power of ten that may be beyond the largest one, step by step; a quotient
that has become zero stays so. -/
def divideByPower (x : Float) (exponent : Nat) : Float :=
  if exponent ≤ largestPower then x / powerOfTen exponent
  else if x == 0 then x
  else divideByPower (x / powerOfTen largestPower) (exponent - largestPower)
termination_by exponent
decreasing_by simp only [largestPower] at *; omega

/-- The magnitude `significand · 10 ^ exponent` as a floating-point number, by one rounded
product or quotient; none if it is too large. -/
def scale? (significand : Nat) (exponent : Int) : Option Float :=
  let x := significand.toUInt64.toFloat
  if exponent < 0 then some (divideByPower x exponent.natAbs)
  else if exponent.natAbs ≤ largestPower then
    let product := x * powerOfTen exponent.natAbs
    if product.isInf then none else some product
  else if x == 0 then some x
  else none

/-- The magnitude of a literal as a floating-point number. The significand is a 64-bit
word: digits before the point that it has no room for count as zeros, and digits after the
point that it has no room for are left out. -/
def magnitude? (literal : NumberLiteral) : Option Float :=
  let (whole, dropped) := fillWord 0 literal.whole
  let (significand, unused) := fillWord whole literal.fraction
  let places := literal.fraction.length - unused.length
  let exponent := (dropped.length : Int) - places + literal.exponent.getD 0
  scale? significand exponent

/-- What a literal denotes. -/
def value? (literal : NumberLiteral) : Option JsonNumber :=
  let value := decimalValue literal.whole
  let isWhole := literal.fraction.isEmpty && literal.exponent.isNone
  if isWhole && !literal.negative && value < word64Bound then some (.integer value)
  else if isWhole && literal.negative && 0 < value && value ≤ Nat.pow 2 63 then
    some (.integer (-value))
  else do
    let x ← literal.magnitude?
    return .float (if literal.negative then -x else x)

end NumberLiteral

/-! ### Values -/

namespace Document

/-- The levels of nesting that a whole document may have. -/
def maxDepth : Nat := 127

mutual

/-- What a document denotes, with `depth` levels of nesting allowed. -/
def toJson? (depth : Nat) : Document → Option Json
  | null => some .null
  | bool value => some (.bool value)
  | number literal => literal.value?.map .number
  | string units => (unitText? units).map .string
  | array items =>
    match depth with
    | 0 => none
    | depth + 1 => (itemsToJson? depth items).map .array
  | object members =>
    match depth with
    | 0 => none
    | depth + 1 =>
      (membersToJson? depth members).map fun pairs => .object (TextMap.ofList pairs).entries

/-- What the items of an array denote. -/
def itemsToJson? (depth : Nat) : List Document → Option (List Json)
  | [] => some []
  | item :: rest => do
    let value ← toJson? depth item
    return value :: (← itemsToJson? depth rest)

/-- What the members of an object denote. -/
def membersToJson? (depth : Nat) :
    List (List StringUnit × Document) → Option (List (String × Json))
  | [] => some []
  | (units, member) :: rest => do
    let name ← unitText? units
    let value ← toJson? depth member
    return (name, value) :: (← membersToJson? depth rest)

end

end Document

/-- Reads a JSON text. -/
def Json.ofText? (text : String) : Option Json := do
  let document ← Document.ofText? text
  document.toJson? Document.maxDepth

end ContractBindings
