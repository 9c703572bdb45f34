/-
WireSchema.Kind — the kinds of type a name can stand for.
-/

namespace WireSchema

/-- What a type name stands for. -/
inductive Kind where
  | primitive
  | enum
  | union
  | struct
  | table
  deriving DecidableEq

/-- The word for a kind. -/
def Kind.name : Kind → String
  | primitive => "primitive"
  | enum => "enum"
  | union => "union"
  | struct => "struct"
  | table => "table"

end WireSchema
