import ContractBindings.Text.Numeral

/-!
# Shortest decimals

A binary fraction `m · 2 ^ q` stands for every real number that rounds to it. Of these,
`Dyadic.shortest` picks a decimal with the fewest digits, among those the one nearest to
the fraction, and of two equally near ones the even one. All arithmetic is on natural
numbers.

The search runs over decimal grids from coarse to fine. If a grid has a point in the
interval, then one of the two grid points next to the fraction is in it, so two tests settle
a grid; seventeen digits always suffice.
-/

namespace ContractBindings

/-- **Binary fraction** `significand · 2 ^ exponent`. -/
structure Dyadic where
  /-- The significand. -/
  significand : Nat
  /-- The exponent of two. -/
  exponent : Int
  /-- Whether the next smaller fraction is only half as far away as the next larger one. -/
  narrowBelow : Bool

/-- **Decimal** `d₁.d₂d₃… · 10 ^ exponent`. -/
structure Decimal where
  /-- The digits, the most significant first. -/
  digits : List Char
  /-- The exponent of ten of the first digit. -/
  exponent : Int

namespace Dyadic

/-- The magnitude of a finite floating-point number. -/
def ofFloat (x : Float) : Dyadic :=
  let bits := x.toBits.toNat
  let field : Nat := bits / Nat.pow 2 52 % Nat.pow 2 11
  let fraction : Nat := bits % Nat.pow 2 52
  if field = 0 then ⟨fraction, -1074, false⟩
  else ⟨Nat.pow 2 52 + fraction, (field : Int) - 1075, fraction = 0 && field != 1⟩

/-- A quarter of the last binary place, measured in units of `10 ^ k`, as a quotient. -/
def quarterUnit (x : Dyadic) (k : Int) : Nat × Nat :=
  (Nat.pow 2 (x.exponent - 2).toNat * Nat.pow 10 (-k).toNat,
    Nat.pow 2 (2 - x.exponent).toNat * Nat.pow 10 k.toNat)

/-- Whether `candidate · 10 ^ k` rounds to the fraction. The ends of the interval do so
exactly when the significand is even. -/
def roundsFrom (x : Dyadic) (k : Int) (candidate : Nat) : Bool :=
  let (num, den) := x.quarterUnit k
  let low := (4 * x.significand - if x.narrowBelow then 1 else 2) * num
  let high := (4 * x.significand + 2) * num
  let point := candidate * den
  if x.significand % 2 = 0 then low ≤ point && point ≤ high
  else low < point && point < high

/-- The multiple of `10 ^ k` nearest to the fraction, of those that round to it. -/
def onGrid? (x : Dyadic) (k : Int) : Option Nat :=
  let (num, den) := x.quarterUnit k
  let below := 4 * x.significand * num / den
  let remainder := 4 * x.significand * num % den
  let above := below + 1
  if x.roundsFrom k below then
    if x.roundsFrom k above && (2 * remainder > den || (2 * remainder = den && below % 2 = 1))
    then some above
    else some below
  else if x.roundsFrom k above then some above
  else none

/-- The exponent of ten of the first digit of a positive fraction. -/
def leadingPlace (x : Dyadic) : Int :=
  let num := x.significand * Nat.pow 2 x.exponent.toNat
  let den := Nat.pow 2 (-x.exponent).toNat
  if den ≤ num then (decimalText (num / den)).length - 1
  else
    match (List.range 400).find? fun j => den ≤ num * Nat.pow 10 j with
    | some j => -j
    | none => 0

/-- The decimal that stands for a positive fraction. -/
def shortest (x : Dyadic) : Decimal :=
  let top := x.leadingPlace
  let places := (List.range 17).map fun i => top - Int.ofNat i
  let found := places.findSome? fun k => (x.onGrid? k).map fun value => (value, k)
  match found with
  | none => ⟨['0'], 0⟩
  | some (value, k) =>
    let digits := decimalText value
    let significant := (digits.reverse.dropWhile (· == '0')).reverse
    ⟨significant, k + digits.length - 1⟩

end Dyadic

end ContractBindings
