/-
WireSchema.Source — declarations as written in a schema.

Nothing is interpreted here: type names are the text of the schema, defaults are literals, and
whether a field is an array is a flag.
-/
import WireSchema.Literal
import WireSchema.Position

namespace WireSchema.Source

/-- A metadata entry `name` or `name: value`. -/
structure MetadataEntry where
  name : String
  value : Option Literal
  deriving DecidableEq

/-- An enum constant or a union member: `Name` or `Name = 3`. -/
structure Value where
  name : String
  value : Option Int
  pos : Position
  deriving DecidableEq

/-- An enum declaration. -/
structure Enum where
  name : String
  underlying : String
  metadata : List MetadataEntry
  values : List Value
  pos : Position
  deriving DecidableEq

/-- A union declaration. -/
structure Union where
  name : String
  metadata : List MetadataEntry
  members : List Value
  pos : Position
  deriving DecidableEq

/-- A field of a struct or a table. -/
structure Field where
  name : String
  typeName : String
  isArray : Bool
  default : Option Literal
  metadata : List MetadataEntry
  pos : Position
  deriving DecidableEq

/-- The body of a struct or a table declaration. -/
structure Compound where
  name : String
  metadata : List MetadataEntry
  fields : List Field
  pos : Position
  deriving DecidableEq

/-- One top-level declaration. -/
inductive Declaration where
  | includeFile (path : String)
  | inNamespace (path : List String)
  | attributeName (name : String)
  | rootType (name : String)
  | fileExtension (extension : String)
  | fileIdentifier (identifier : String)
  | enum (decl : Enum)
  | union (decl : Union)
  | struct (decl : Compound)
  | table (decl : Compound)
  deriving DecidableEq

/-- A schema is its declarations in order. -/
abbrev Schema := List Declaration

end WireSchema.Source
