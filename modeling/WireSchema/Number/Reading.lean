/-
WireSchema.Number.Reading — reading decimal numerals.

* `integer?` — an optional minus sign and ASCII digits, inside the 128-bit signed range.
* `binary64?` — a decimal numeral with optional fraction and exponent, or a name of infinity or
  not-a-number; the nearest value is taken.

Digits of other scripts are decimal digits of a token, but have no value here.
-/
import WireSchema.Number.Binary64

namespace WireSchema.Number

/-- The least integer a literal may have, `-2 ^ 127`. -/
def minInteger : Int := -170141183460469231731687303715884105728

/-- The greatest integer a literal may have, `2 ^ 127 - 1`. -/
def maxInteger : Int := 170141183460469231731687303715884105727

/-- The value of a run of ASCII digits, most significant first. -/
def digitsValue (digits : List Char) : Nat :=
  digits.foldl (fun value c => 10 * value + (c.toNat - '0'.toNat)) 0

/-- The value of a nonempty run of ASCII digits. -/
def natural? (digits : List Char) : Option Nat :=
  if !digits.isEmpty && digits.all Char.isDigit then some (digitsValue digits) else none

/-- Reads an integer numeral. -/
def integer? (text : String) : Option Int :=
  let value? : Option Int :=
    match text.toList with
    | '-' :: digits => (natural? digits).map fun n => -(n : Int)
    | digits => (natural? digits).map fun n => (n : Int)
  value?.filter fun n => minInteger ≤ n && n ≤ maxInteger

/-- The value nearest to `digits · 10 ^ exponent`, where `digits` is spelled with `count` digits
after leading zeros. Values far outside the range are settled without computing the power. -/
def ofDecimal (negative : Bool) (digits count : Nat) (exponent : Int) : Binary64 :=
  if digits == 0 then .zero negative
  else if 310 < exponent + count then .infinite negative
  else if exponent + count < -330 then .zero negative
  else .ofRatio negative (digits * powNum 10 exponent) (powDen 10 exponent)

/-- Reads an exponent part: nothing, or a mark, an optional sign and digits. -/
def exponentPart? : List Char → Option Int
  | [] => some 0
  | mark :: rest =>
    if mark == 'e' || mark == 'E' then
      match rest with
      | '-' :: digits => (natural? digits).map fun n => -(n : Int)
      | '+' :: digits => (natural? digits).map fun n => (n : Int)
      | digits => (natural? digits).map fun n => (n : Int)
    else none

/-- Reads digits with an optional fraction and an optional exponent; one digit at least. -/
def decimal? (negative : Bool) (cs : List Char) : Option Binary64 :=
  let whole := cs.takeWhile Char.isDigit
  let afterWhole := cs.dropWhile Char.isDigit
  let (fraction, rest) :=
    match afterWhole with
    | '.' :: tail => (tail.takeWhile Char.isDigit, tail.dropWhile Char.isDigit)
    | tail => ([], tail)
  if whole.isEmpty && fraction.isEmpty then none
  else
    (exponentPart? rest).map fun exponent =>
      let digits := (whole ++ fraction).dropWhile (· == '0')
      ofDecimal negative (digitsValue digits) digits.length (exponent - fraction.length)

/-- Reads a name of infinity or not-a-number, in any case. -/
def special? (negative : Bool) (cs : List Char) : Option Binary64 :=
  match String.ofList (cs.map Char.toLower) with
  | "inf" => some (.infinite negative)
  | "infinity" => some (.infinite negative)
  | "nan" => some .nan
  | _ => none

/-- Reads a floating point numeral with an optional sign. -/
def binary64? (text : String) : Option Binary64 :=
  match text.toList with
  | '-' :: cs => (decimal? true cs).orElse fun _ => special? true cs
  | '+' :: cs => (decimal? false cs).orElse fun _ => special? false cs
  | cs => (decimal? false cs).orElse fun _ => special? false cs

end WireSchema.Number
