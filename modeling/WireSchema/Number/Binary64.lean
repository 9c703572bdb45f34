/-
WireSchema.Number.Binary64 — binary floating point values of 64 bits, as exact data.

A finite value is a sign and a magnitude `mantissa · 2 ^ exponent`. The values built here are in
their normal form: the mantissa is below `2 ^ 53`, and it is at least `2 ^ 52` unless the exponent is
the least one. `ofRatio` rounds a positive ratio to the nearest value, a half to the even mantissa.
-/

namespace WireSchema.Number

/-- A binary64 value. -/
inductive Binary64 where
  | finite (negative : Bool) (mantissa : Nat) (exponent : Int)
  | infinite (negative : Bool)
  | nan
  deriving DecidableEq

/-- The nearest integer to `num / den`, a half going to the even neighbour. -/
def roundRatio (num den : Nat) : Nat :=
  let floor := num / den
  let twice := 2 * (num % den)
  if twice < den then floor
  else if den < twice then floor + 1
  else if floor % 2 == 0 then floor
  else floor + 1

/-- The factor of a numerator multiplied by `base ^ exponent`: one for a negative exponent. -/
def powNum (base : Nat) (exponent : Int) : Nat :=
  Nat.pow base exponent.toNat

/-- The factor of a denominator for the same product: one unless the exponent is negative. -/
def powDen (base : Nat) (exponent : Int) : Nat :=
  Nat.pow base (-exponent).toNat

namespace Binary64

/-- The exponent of the least mantissa step. -/
def minExponent : Int := -1074

/-- The greatest exponent of a finite value. -/
def maxExponent : Int := 971

/-- The mantissa bound `2 ^ 53`. -/
def mantissaBound : Nat := 9007199254740992

/-- Zero with a sign. -/
def zero (negative : Bool) : Binary64 :=
  .finite negative 0 minExponent

/-- Whether a value is neither infinite nor not-a-number. -/
def isFinite : Binary64 → Bool
  | .finite .. => true
  | .infinite _ | .nan => false

/-- The exponent under which `num / den` has a mantissa of at most 53 bits, and of exactly 53 bits
if the exponent is not the least. -/
def exponentFor (num den : Nat) : Int :=
  let guess := max ((num.log2 : Int) - (den.log2 : Int) - 53) minExponent
  if mantissaBound ≤ num * powDen 2 guess / (den * powNum 2 guess) then guess + 1 else guess

/-- The value nearest to `num / den`, for positive `num` and `den`. -/
def ofRatio (negative : Bool) (num den : Nat) : Binary64 :=
  let exponent := exponentFor num den
  let mantissa := roundRatio (num * powDen 2 exponent) (den * powNum 2 exponent)
  let carried := mantissa == mantissaBound
  let exponent := if carried then exponent + 1 else exponent
  let mantissa := if carried then mantissa / 2 else mantissa
  if maxExponent < exponent then .infinite negative else .finite negative mantissa exponent

end Binary64

end WireSchema.Number
