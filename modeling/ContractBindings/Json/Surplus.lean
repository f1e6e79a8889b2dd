import ContractBindings.Json.Token

/-!
# Surplus behind a byte sequence

A byte sequence of a known size, written as an array, is complete with its last byte. What
stands behind that byte is looked at only far enough to refuse one byte more: another item
may stand there as long as it is no byte. The item is abandoned at the place where it turns
out to be something else, or to be no item at all, and the closing bracket has to come next.

* `Surplus.skipItem` — goes to the place where the item is abandoned;
* `Surplus.close?` — goes behind the closing bracket.

Places are counted in bytes of UTF-8. A place inside a character is given as none, since no
bracket can stand there.
-/

namespace ContractBindings

namespace Surplus

/-! ### Steps -/

/-- Goes a number of bytes ahead. -/
def skipBytes : Nat → List Char → Option (List Char)
  | 0, text => some text
  | _ + 1, [] => none
  | count + 1, c :: rest =>
    if c.utf8Size ≤ count + 1 then skipBytes (count + 1 - c.utf8Size) rest else none

/-- Goes behind the letters of a word, or behind the first byte that is not the letter
expected. -/
def skipWord : List Char → List Char → Option (List Char)
  | [], text => some text
  | _ :: _, [] => none
  | letter :: letters, c :: rest =>
    if c = letter then skipWord letters rest else skipBytes 1 (c :: rest)

/-! ### Strings -/

/-- Goes behind the closing quote of a string, or behind the first thing that may not stand
in it; `half` tells whether the first half of a surrogate pair stands before the text, so that
the second one has to come next. -/
def skipString (half : Bool) : List Char → Option (List Char)
  | [] => none
  | '\\' :: 'u' :: a :: b :: c :: d :: rest =>
    match Token.fourDigits? a b c d with
    | none => skipBytes 4 (a :: b :: c :: d :: rest)
    | some unit =>
      if half = isLowSurrogate unit then skipString (isHighSurrogate unit) rest else some rest
  | '\\' :: 'u' :: rest => skipBytes 4 rest
  | '\\' :: c :: rest =>
    if !half && (Token.shortEscape? c).isSome then skipString false rest
    else skipBytes 1 (c :: rest)
  | c :: rest =>
    if half || c == '"' || c == '\\' || c.toNat < 0x20 then skipBytes 1 (c :: rest)
    else skipString false rest

/-! ### Numbers -/

/-- The smallest exponent of ten that is too large for any number. -/
def exponentBound : Nat := 0x80000000

/-- Whether a number is abandoned before the last of its digits: its value is not zero, and
its exponent is too large even without the last digit. -/
def endsEarly (literal : NumberLiteral) : Bool :=
  (literal.whole ++ literal.fraction).any (· != '0') &&
    decide ((10 * exponentBound : Int) ≤ literal.exponent.getD 0)

/-- Goes behind the place where something that starts like a number is none: behind a point
without digits, or behind the byte that stands for a digit. -/
def skipFaultyNumber (text : List Char) : Option (List Char) :=
  match Token.scanWhole text with
  | none => skipBytes 1 text
  | some (_, rest) =>
    match Token.scanFraction rest with
    | none => some (rest.drop 1)
    | some (_, rest) =>
      match rest.drop 1 with
      | '+' :: rest => skipBytes 1 rest
      | '-' :: rest => skipBytes 1 rest
      | rest => skipBytes 1 rest

/-- Goes behind a number, which must not be a byte; its sign has been read. -/
def skipNumber (negative : Bool) (text : List Char) : Option (List Char) :=
  match Token.scanNumber negative text with
  | some (literal, rest) =>
    if literal.byte?.isSome || endsEarly literal then none else some rest
  | none => skipFaultyNumber text

/-! ### Items -/

/-- Goes to the place where the item that comes first is abandoned. -/
def skipItem : List Char → Option (List Char)
  | [] => none
  | 'n' :: rest => skipWord ['u', 'l', 'l'] rest
  | 't' :: rest => skipWord ['r', 'u', 'e'] rest
  | 'f' :: rest => skipWord ['a', 'l', 's', 'e'] rest
  | '"' :: rest => skipString false rest
  | '-' :: rest => skipNumber true rest
  | c :: rest => if c.isDigit then skipNumber false (c :: rest) else some (c :: rest)

/-- What follows the closing bracket of a byte sequence, where `text` is what stands behind
the comma that follows the last byte. -/
def close? (text : List Char) : Option (List Char) := do
  let rest ← skipItem text
  match rest.dropWhile Token.isSpace with
  | ']' :: rest => some rest
  | _ => none

end Surplus

end ContractBindings
