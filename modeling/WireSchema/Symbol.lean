/-
WireSchema.Symbol — the declarations of one file after their own checks.

Type names are still as written; metadata is recognised and enum values are numbered.
-/
import WireSchema.Kind
import WireSchema.Metadata
import WireSchema.Position

namespace WireSchema.Symbol

/-- A numbered enum constant. -/
structure EnumValue where
  name : String
  value : Int
  deriving DecidableEq

/-- An enum over an integer primitive. -/
structure Enum where
  name : String
  underlying : Primitive
  values : List EnumValue
  metadata : List Metadata
  deriving DecidableEq

/-- The names of the constants, in order. -/
def Enum.names (e : Enum) : List String :=
  e.values.map (·.name)

/-- A union of types named in its file's words. -/
structure Union where
  name : String
  members : List String
  metadata : List Metadata
  deriving DecidableEq

/-- A field of a struct or a table. -/
structure Field where
  name : String
  pos : Position
  typeName : String
  isArray : Bool
  default : Option Literal
  metadata : List Metadata
  deriving DecidableEq

namespace Field

/-- Whether the field is no longer in use. -/
def isDeprecated (f : Field) : Bool :=
  f.metadata.contains .deprecated

/-- Whether the field must be present. -/
def isRequired (f : Field) : Bool :=
  f.metadata.contains .required

/-- The type as written, in brackets for an array. -/
def typeLiteral (f : Field) : String :=
  if f.isArray then "[" ++ f.typeName ++ "]" else f.typeName

end Field

/-- A struct or a table. -/
structure Compound where
  name : String
  pos : Position
  fields : List Field
  metadata : List Metadata
  deriving DecidableEq

/-- The first forced alignment. -/
def Compound.forceAlign? (c : Compound) : Option Nat :=
  c.metadata.findSome? fun
    | .forceAlign bytes => some bytes
    | _ => none

/-- A type found by name. -/
inductive Declared where
  | primitive (p : Primitive)
  | enum (e : Enum)
  | union (u : Union)
  | struct (s : Compound)
  | table (t : Compound)
  deriving DecidableEq

/-- The kind of a type. -/
def Declared.kind : Declared → Kind
  | primitive _ => .primitive
  | enum _ => .enum
  | union _ => .union
  | struct _ => .struct
  | table _ => .table

end WireSchema.Symbol
