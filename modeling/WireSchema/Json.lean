/-
WireSchema.Json — JSON values and their indented text.

Objects keep the order of their members. A number is an exact integer or a binary64 value; a value
that is not finite has no numeral and is written as null.
-/
import WireSchema.Number.DecimalText
import WireSchema.Text.Quoted

namespace WireSchema

open WireSchema.Number (Binary64 DecimalStyle)

/-- A JSON value. -/
inductive Json where
  | null
  | bool (value : Bool)
  | integer (value : Int)
  | float (value : Binary64)
  | string (text : String)
  | array (items : List Json)
  | object (members : List (String × Json))

namespace Json

/-- Numbers in JSON text: positional from a hundred-thousandth to below ten to the sixteenth, a
signed exponent, and ties to the even digit. -/
def decimalStyle : DecimalStyle where
  positionalFrom := -5
  positionalBelow := 16
  plusSign := true
  tie := .even

/-- The text of a number. -/
def floatText (x : Binary64) : String :=
  if x.isFinite then x.text decimalStyle else "null"

/-- A new line, two blanks deeper per level. -/
def newline (depth : Nat) : String :=
  "\n" ++ String.ofList (List.replicate (2 * depth) ' ')

mutual

/-- The text of a value that stands at a depth. -/
def prettyAt (depth : Nat) : Json → String
  | null => "null"
  | bool value => if value then "true" else "false"
  | integer value => toString value
  | float value => floatText value
  | string text => Text.quote text
  | array [] => "[]"
  | array (item :: items) =>
    "[" ++ newline (depth + 1) ++ prettyAt (depth + 1) item ++ prettyItems (depth + 1) items ++
      newline depth ++ "]"
  | object [] => "\x7b\x7d"
  | object (member :: members) =>
    "\x7b" ++ newline (depth + 1) ++ prettyMember (depth + 1) member ++
      prettyMembers (depth + 1) members ++ newline depth ++ "\x7d"

/-- The text of further items. -/
def prettyItems (depth : Nat) : List Json → String
  | [] => ""
  | item :: items => "," ++ newline depth ++ prettyAt depth item ++ prettyItems depth items

/-- The text of one member. -/
def prettyMember (depth : Nat) : String × Json → String
  | (key, value) => Text.quote key ++ ": " ++ prettyAt depth value

/-- The text of further members. -/
def prettyMembers (depth : Nat) : List (String × Json) → String
  | [] => ""
  | member :: members =>
    "," ++ newline depth ++ prettyMember depth member ++ prettyMembers depth members

end

/-- The text of a value over several lines. -/
def pretty (value : Json) : String :=
  prettyAt 0 value

/-- A value or null. -/
def ofOption {α : Type} (encode : α → Json) : Option α → Json
  | some value => encode value
  | none => null

/-- A list of values. -/
def ofList {α : Type} (encode : α → Json) (items : List α) : Json :=
  array (items.map encode)

/-- A natural number. -/
def natural (n : Nat) : Json :=
  integer n

end Json

end WireSchema
