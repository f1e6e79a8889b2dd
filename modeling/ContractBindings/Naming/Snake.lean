import ContractBindings.Text.Case

/-!
# Snake case

A name is cut into words by underscores in two passes, and then lowered. The first pass
sets an underscore before a capital that opens a run of small letters (`HTTPServer` becomes
`HTTP_Server`), the second one between a small letter or digit and a capital (`balanceOf`
becomes `balance_Of`). Each pass reads from left to right, and what a boundary has consumed
takes no part in the next one. Only basic Latin letters and digits make boundaries.
-/

namespace ContractBindings

/-- A letter of `a` to `z` or a digit. -/
def isSmallOrDigit (c : Char) : Bool := isSmall c || c.isDigit

/-- The first pass: an underscore between any character but a line feed and a capital that
a small letter follows. `inWord` says that a boundary was just set, so that the small
letters next to come belong to it. -/
def cutCapitalizedWords (inWord : Bool) : List Char → List Char
  | [] => []
  | x :: rest =>
    if inWord && isSmall x then x :: cutCapitalizedWords true rest
    else
      match rest with
      | c :: s :: tail =>
        if x != '\n' && isCapital c && isSmall s then
          x :: '_' :: c :: s :: cutCapitalizedWords true tail
        else
          x :: cutCapitalizedWords false (c :: s :: tail)
      | short => x :: short

/-- The second pass: an underscore between a small letter or digit and a capital. -/
def cutBeforeCapitals : List Char → List Char
  | x :: c :: rest =>
    if isSmallOrDigit x && isCapital c then x :: '_' :: c :: cutBeforeCapitals rest
    else x :: cutBeforeCapitals (c :: rest)
  | short => short

/-- A name in snake case: `ERC20Token` becomes `erc20_token`. -/
def snakeCase (name : String) : String :=
  .ofList (lowerText (cutBeforeCapitals (cutCapitalizedWords false name.toList)))

end ContractBindings
