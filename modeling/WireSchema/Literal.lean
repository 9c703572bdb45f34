/-
WireSchema.Literal — constants as written in a schema.
-/
import WireSchema.Number.DecimalText
import WireSchema.Primitive

namespace WireSchema

open WireSchema.Number (Binary64 DecimalStyle)

/-- A scalar, a string, or the name of an enum value. -/
inductive Literal where
  | bool (value : Bool)
  | integer (value : Int)
  | float (value : Binary64)
  | string (text : String)
  | ident (name : String)
  deriving DecidableEq

namespace Literal

/-- Numbers in messages and emitted code: positional from a ten-thousandth to below ten to the
sixteenth, a tie between shortest decimals goes up. -/
def decimalStyle : DecimalStyle where
  positionalFrom := -4
  positionalBelow := 16
  plusSign := false
  tie := .up

/-- The text of a literal, strings without their quotes. -/
def text : Literal → String
  | bool value => if value then "true" else "false"
  | integer value => toString value
  | float value => value.text decimalStyle
  | string text => text
  | ident name => name

/-- Whether a literal is a value of a primitive. Integers must lie in the primitive's range; a float
takes every integer, every finite number and the names of infinity and not-a-number. -/
def fits (literal : Literal) (p : Primitive) : Bool :=
  match p.typeClass, literal with
  | .bool, .bool _ => true
  | .int, .integer n | .char, .integer n =>
    match p.integerRange? with
    | some (least, greatest) => least ≤ n && n ≤ greatest
    | none => false
  | .float, .integer _ => true
  | .float, .float x => x.isFinite
  | .float, .ident name => name == "nan" || name == "inf" || name == "infinity"
  | .string, .string _ => true
  | _, _ => false

end Literal

end WireSchema
