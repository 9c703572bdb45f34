/-
WireSchema.ParseError — why a text is no schema, and where.
-/
import WireSchema.Position
import WireSchema.Text.Quoted

namespace WireSchema

open WireSchema.Text (quote)

/-- What the parser was looking for. -/
inductive Expectation where
  | string
  | identifier
  | identifierOrString
  | integer
  | symbol (text : String)
  deriving DecidableEq

/-- The words for an expectation in a message. -/
def Expectation.text : Expectation → String
  | string => "string"
  | identifier => "identifier"
  | identifierOrString => "identifier or string"
  | integer => "integer"
  | symbol text => quote text

/-- Why a text is no schema. -/
inductive ParseFault where
  /-- No piece starts where this stretch of text starts. -/
  | unlexed (text : String)
  | expected (what : Expectation) (found : String)
  | noValue (found : String)
  | unexpected (found : String)
  | invalidInteger (text : String)
  | invalidNumber (text : String)
  | emptyStruct (name : String)
  deriving DecidableEq

/-- The words for a token in a message; the end of the file is an empty token. -/
def describeToken (text : String) : String :=
  if text.isEmpty then "end of file" else quote text

/-- The text of a fault. -/
def ParseFault.message : ParseFault → String
  | unlexed text => "Syntax error: " ++ quote text
  | expected what found => "Expected " ++ what.text ++ " but found " ++ describeToken found
  | noValue found => "Expected a value but found " ++ describeToken found
  | unexpected found => "Unexpected token " ++ describeToken found
  | invalidInteger text => "Invalid integer " ++ quote text
  | invalidNumber text => "Invalid number " ++ quote text
  | emptyStruct name => "Struct " ++ quote name ++ " needs at least one field"

/-- A fault and the place it is reported at. -/
structure ParseError where
  pos : Position
  fault : ParseFault
  deriving DecidableEq

end WireSchema
