/-
WireSchema.Text.CodeRun — sets of characters given by runs of code points.

A character property is a list of runs in ascending order. A run holds the codes
`first, first + step, …, last`; a step of two fits alphabets in which large and small letters
alternate. Runs never interleave, so the first run that does not end before a code decides.
-/

namespace WireSchema.Text

/-- The codes `first, first + step, …` up to `last`. -/
structure CodeRun where
  first : Nat
  last : Nat
  step : Nat

/-- Whether a code lies in one of the ascending runs. -/
def CodeRun.covers : List CodeRun → Nat → Bool
  | [], _ => false
  | run :: runs, code =>
    if code ≤ run.last then run.first ≤ code && (code - run.first) % run.step == 0
    else covers runs code

/-- A run whose codes all move by the same distance. -/
structure CodeShift where
  first : Nat
  last : Nat
  step : Nat
  distance : Int

/-- The code a shift table sends `code` to, if the table moves it. -/
def CodeShift.target? : List CodeShift → Nat → Option Nat
  | [], _ => none
  | run :: runs, code =>
    if code ≤ run.last then
      if run.first ≤ code && (code - run.first) % run.step == 0 then
        some (code + run.distance).toNat
      else none
    else target? runs code

end WireSchema.Text
