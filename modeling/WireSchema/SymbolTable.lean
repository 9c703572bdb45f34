/-
WireSchema.SymbolTable — the names one schema file declares.
-/
import WireSchema.OrderedMap
import WireSchema.Symbol

namespace WireSchema

/-- The header lines of a file and its declarations by name, kind by kind. -/
structure SymbolTable where
  namespacePath : Option (List String) := none
  includes : List String := []
  attributes : List String := []
  rootTypes : List String := []
  fileIdentifier : Option String := none
  fileExtension : Option String := none
  enums : OrderedMap String Symbol.Enum := {}
  unions : OrderedMap String Symbol.Union := {}
  structs : OrderedMap String Symbol.Compound := {}
  tables : OrderedMap String Symbol.Compound := {}
  /-- The names of all declared types in source order. -/
  declarationOrder : List String := []
  deriving DecidableEq

namespace SymbolTable

/-- The namespace of the file; without a declaration it is the global one. -/
def scopePath (file : SymbolTable) : List String :=
  file.namespacePath.getD []

/-- The declaration with a local name. -/
def find? (file : SymbolTable) (name : String) : Option Symbol.Declared :=
  ((file.enums.get? name).map .enum).or <| ((file.unions.get? name).map .union).or <|
    ((file.structs.get? name).map .struct).or ((file.tables.get? name).map .table)

/-- Whether a name is a primitive's or declared in this file. -/
def typeExists (file : SymbolTable) (name : String) : Bool :=
  (Primitive.ofName? name).isSome || (file.find? name).isSome

end SymbolTable

end WireSchema
