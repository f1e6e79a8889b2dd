import ContractBindings.Text.Case

/-!
# Camel case

Contract identifiers are written with underscores or with inner capitals. The bindings use
inner capitals only: a separator goes, and the character after it becomes a capital.

* `joinWords` — joins the words of a text, for any notion of separator;
* `camelCase` — joins the words of a name; its first character stays as it is unless an
  underscore precedes it;
* `capitalize` — camel case with a capital in front, after dropping leading underscores;
* `decapitalize` — the same with a small letter in front.
-/

namespace ContractBindings

/-- Joins the words of a text. A separator is dropped, and the character after it becomes a
capital; `raise` says that a separator came just before. -/
def joinWords (isSeparator : Char → Bool) (raise : Bool) : List Char → List Char
  | [] => []
  | c :: rest =>
    if isSeparator c then joinWords isSeparator true rest
    else (if raise then upperChar c else [c]) ++ joinWords isSeparator false rest

/-- The separator of contract identifiers. -/
def isUnderscore (c : Char) : Bool := c == '_'

/-- A text with its first character replaced by an image of it. -/
def mapFirst (f : Char → List Char) : List Char → List Char
  | [] => []
  | c :: rest => f c ++ rest

/-- The words of a name, joined behind its leading underscores. -/
def camelWords (name : List Char) : List Char :=
  joinWords isUnderscore false (name.dropWhile isUnderscore)

/-- A name with its words joined: `token_id` becomes `tokenId`. -/
def camelCase (name : String) : String := .ofList (joinWords isUnderscore false name.toList)

/-- A name in camel case with a capital in front: `_token_id` becomes `TokenId`. -/
def capitalize (name : String) : String := .ofList (mapFirst upperChar (camelWords name.toList))

/-- A name in camel case with a small letter in front: `_Token_id` becomes `tokenId`. -/
def decapitalize (name : String) : String := .ofList (mapFirst lowerChar (camelWords name.toList))

end ContractBindings
