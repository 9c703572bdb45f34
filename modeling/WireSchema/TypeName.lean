/-
WireSchema.TypeName — qualified names: a namespace path and a local name.
-/
import WireSchema.Text.Split

namespace WireSchema

/-- A namespace path joined with points, as schemas spell it. -/
def dotted (path : List String) : String :=
  ".".intercalate path

/-- A qualified name. -/
structure TypeName where
  path : List String
  name : String
  deriving DecidableEq

namespace TypeName

/-- Cuts a text at its points; the last piece is the local name. -/
def ofText (text : String) : TypeName :=
  let pieces := (Text.split '.' text.toList).map String.ofList
  ⟨pieces.dropLast, pieces.getLast?.getD ""⟩

/-- The path and the local name, joined with points. -/
def text (n : TypeName) : String :=
  dotted (n.path ++ [n.name])

end TypeName

end WireSchema
