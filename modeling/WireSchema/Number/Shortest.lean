/-
WireSchema.Number.Shortest — the fewest decimal digits that read back as the same value.

The reals that round to `mantissa · 2 ^ exponent` form an interval around it. For one digit, two
digits and so on, the two neighbours of the value on that decimal grid are tried; the first grid
with a neighbour in the interval wins, the nearer of two neighbours, and `Tie` decides between two
that are equally near. Seventeen digits always suffice.
-/
import WireSchema.Number.Binary64

namespace WireSchema.Number

/-- Which of two equally near decimals is taken. -/
inductive Tie where
  | up
  | even
  deriving DecidableEq

/-- The decimal `digits · 10 ^ exponent`. -/
structure Decimal where
  digits : Nat
  exponent : Int
  deriving DecidableEq

/-- How many decimal digits a number has. -/
def digitCount (n : Nat) : Nat :=
  (Nat.toDigits 10 n).length

/-- The exponent `e` with `10 ^ e ≤ num / den < 10 ^ (e + 1)`, for positive `num` and `den`. -/
def decimalExponent (num den : Nat) : Int :=
  if den ≤ num then (digitCount (num / den) : Int) - 1
  else -(digitCount ((den - 1) / num) : Int)

/-- A value `mantissa · 2 ^ exponent` on the grid of multiples of `10 ^ grid`: a quarter of a mantissa
step and a grid step, both as multiples of one small unit. -/
structure Grid where
  quarter : Nat
  step : Nat

/-- The two steps for a binary and a decimal exponent. -/
def Grid.of (exponent grid : Int) : Grid where
  quarter := powNum 2 (exponent - 2) * powDen 10 grid
  step := powNum 10 grid * powDen 2 (exponent - 2)

/-- The decimal on the grid `10 ^ grid` that stands for the value, if one reads back as it. -/
def onGrid? (mantissa : Nat) (exponent grid : Int) (tie : Tie) : Option Decimal :=
  let steps := Grid.of exponent grid
  let value := 4 * mantissa * steps.quarter
  let below := if 2 * mantissa == Binary64.mantissaBound then 1 else 2
  let low := (4 * mantissa - below) * steps.quarter
  let high := (4 * mantissa + 2) * steps.quarter
  let closed := mantissa % 2 == 0
  let floor := value / steps.step
  let down := floor * steps.step
  let up := down + steps.step
  let downFits := low < down || (closed && low == down)
  let upFits := up < high || (closed && up == high)
  let upNearer :=
    up - value < value - down ||
      (up - value == value - down && (tie == .up || floor % 2 == 1))
  if downFits && !(upFits && upNearer) then some ⟨floor, grid⟩
  else if upFits then some ⟨floor + 1, grid⟩
  else none

/-- The shortest decimal that reads back as `mantissa · 2 ^ exponent`, for a positive mantissa. -/
def shortest (mantissa : Nat) (exponent : Int) (tie : Tie) : Decimal :=
  let leading := decimalExponent (mantissa * powNum 2 exponent) (powDen 2 exponent)
  let found := (List.range 17).findSome? fun (n : Nat) =>
    onGrid? mantissa exponent (leading - (n : Int)) tie
  found.getD ⟨mantissa, exponent⟩

end WireSchema.Number
