import ContractBindings.Text.CaseTable

/-!
# Capital and small letters

The full Unicode case mappings. `upperChar` and `lowerChar` send a character to the list of
characters that replaces it, since `ß` becomes `SS` and `İ` becomes `i` with a dot above.
`lowerText` lowers a whole text. It is not the characterwise map: a capital sigma that ends
a word becomes the final form `ς`, and whether it does is read off its neighbours.

The basic Latin letters are decided by arithmetic, all others by the lists of
`Text/CaseTable.lean`.
-/

namespace ContractBindings

/-! ### Basic Latin letters -/

/-- A letter of `A` to `Z`. -/
def isCapital (c : Char) : Bool := 'A' ≤ c && c ≤ 'Z'

/-- A letter of `a` to `z`. -/
def isSmall (c : Char) : Bool := 'a' ≤ c && c ≤ 'z'

/-! ### Single characters -/

/-- The image of a character under the given runs and expansions; a character without an
entry is its own image. -/
private def imageIn (runs : List CaseRun) (expansions : List (Nat × List Nat)) (c : Char) :
    List Char :=
  match expansions.lookup c.toNat with
  | some image => image.map Char.ofNat
  | none =>
    match runs.findSome? (·.image? c.toNat) with
    | some image => [Char.ofNat image]
    | none => [c]

/-- The capital form of a character. -/
def upperChar (c : Char) : List Char :=
  if c.toNat < 0x80 then [if isSmall c then Char.ofNat (c.toNat - 32) else c]
  else imageIn upperRuns upperExpansions c

/-- The small form of a character. -/
def lowerChar (c : Char) : List Char :=
  if c.toNat < 0x80 then [if isCapital c then Char.ofNat (c.toNat + 32) else c]
  else imageIn lowerRuns lowerExpansions c

/-! ### Whole texts -/

/-- Membership in a list of closed ranges. -/
private def inRanges (ranges : List (Nat × Nat)) (n : Nat) : Bool :=
  ranges.any fun range => range.1 ≤ n && n ≤ range.2

/-- Whether a character has a case. -/
def isCased (c : Char) : Bool :=
  isCapital c || isSmall c || inRanges casedRanges c.toNat

/-- Whether a character is looked through when the case of a neighbour is asked for. -/
def isCaseIgnorable (c : Char) : Bool :=
  [0x27, 0x2E, 0x3A, 0x5E, 0x60].contains c.toNat || inRanges caseIgnorableRanges c.toNat

/-- Whether the first character that is not looked through has a case. -/
def startsCased (text : List Char) : Bool :=
  match text.dropWhile isCaseIgnorable with
  | [] => false
  | c :: _ => isCased c

/-- Lowers `text`, whose preceding characters are `before`, the nearest first. A capital
sigma takes its **final form** when a cased character precedes it and none follows. -/
def lowerAfter (before : List Char) : List Char → List Char
  | [] => []
  | c :: rest =>
    let small :=
      if c == 'Σ' then [if startsCased before && !startsCased rest then 'ς' else 'σ']
      else lowerChar c
    small ++ lowerAfter (c :: before) rest

/-- The small form of a whole text. -/
def lowerText (text : List Char) : List Char := lowerAfter [] text

end ContractBindings
