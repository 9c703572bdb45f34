/-
WireSchema.Number.DecimalText — writing a binary64 value as a decimal numeral.

The digits are the shortest ones (`Number.Shortest`); a `DecimalStyle` decides the rest: which
magnitudes are written positionally, whether a positive exponent has a sign, which way a tie goes.
A positional numeral always has a fraction.
-/
import WireSchema.Number.Shortest

namespace WireSchema.Number

/-- The decisions of one way of writing numbers. -/
structure DecimalStyle where
  /-- The least power of ten whose numerals are positional. -/
  positionalFrom : Int
  /-- The first power of ten above those whose numerals are positional. -/
  positionalBelow : Int
  /-- Whether a positive exponent carries a plus sign. -/
  plusSign : Bool
  /-- Which of two equally near shortest decimals is written. -/
  tie : Tie

/-- A numeral with a point and no exponent; `leading` is the power of ten of the first digit. -/
def positional (digits : String) (leading : Int) : String :=
  if leading < 0 then
    "0." ++ String.ofList (List.replicate (-leading - 1).toNat '0') ++ digits
  else
    let whole := leading.toNat + 1
    if digits.length ≤ whole then
      digits ++ String.ofList (List.replicate (whole - digits.length) '0') ++ ".0"
    else
      String.ofList (digits.toList.take whole) ++ "." ++ String.ofList (digits.toList.drop whole)

/-- A numeral with one digit before the point and an exponent. -/
def exponential (style : DecimalStyle) (digits : String) (leading : Int) : String :=
  let fraction := digits.toList.drop 1
  let point := if fraction.isEmpty then "" else "."
  let sign := if style.plusSign && 0 ≤ leading then "+" else ""
  String.ofList (digits.toList.take 1) ++ point ++ String.ofList fraction ++ "e" ++ sign ++
    toString leading

/-- The digits of a decimal without trailing zeros; the power of ten of the first one stays. -/
def significant (d : Decimal) : String × Int :=
  let digits := Nat.toDigits 10 d.digits
  let leading := d.exponent + (digits.length : Int) - 1
  (String.ofList (digits.reverse.dropWhile (· == '0')).reverse, leading)

/-- Writes the magnitude of a finite value. -/
def magnitudeText (style : DecimalStyle) (mantissa : Nat) (exponent : Int) : String :=
  if mantissa == 0 then "0.0"
  else
    let (digits, leading) := significant (shortest mantissa exponent style.tie)
    if style.positionalFrom ≤ leading && leading < style.positionalBelow then
      positional digits leading
    else exponential style digits leading

/-- Writes a value. -/
def Binary64.text (style : DecimalStyle) : Binary64 → String
  | .finite negative mantissa exponent =>
    (if negative then "-" else "") ++ magnitudeText style mantissa exponent
  | .infinite negative => if negative then "-inf" else "inf"
  | .nan => "NaN"

end WireSchema.Number
