/-
WireSchema.Code.Item — emitted code as data.

An item is one emitted type with everything its text shows: identifiers, field types, initial values
and constants. `Code.Emit` makes items, `Code.Render` writes them.
-/
import WireSchema.Layout

namespace WireSchema.Code

/-- How code names a type: by its identifier in the same module, or from the root. -/
inductive TypePath where
  | bare (ident : String)
  | rooted (modules : List String) (ident : String)
  deriving DecidableEq

/-- The type of one value. -/
inductive BaseType where
  | native (name : String)
  | named (path : TypePath)
  deriving DecidableEq

/-- How a field holds its values. -/
inductive Holder where
  | plain
  | optional
  | vector
  deriving DecidableEq

/-- A field of an emitted struct. -/
structure FieldItem where
  ident : String
  holder : Holder
  type : BaseType
  deriving DecidableEq

/-- A value in emitted code. -/
inductive Value where
  | variant (path : TypePath) (ident : String)
  | verbatim (text : String)
  deriving DecidableEq

/-- The initial value of a field. -/
inductive Initial where
  | fallback
  | plain (value : Value)
  | present (value : Value)
  deriving DecidableEq

/-- A constant of a type. -/
structure Constant where
  name : String
  value : Nat
  deriving DecidableEq

/-- An emitted enum. -/
structure EnumItem where
  derives : List String
  representation : String
  ident : String
  variants : List (String × Int)
  default : Option String
  deriving DecidableEq

/-- An emitted union: a variant per member and the one for no member. -/
structure UnionItem where
  derives : List String
  ident : String
  variants : List (String × TypePath)
  tagType : String
  extent : Option Extent
  deriving DecidableEq

/-- The name of the variant for no member. -/
def noMember : String := "None"

/-- The variants with their tags: zero stands for no member, the members are counted from one. -/
def UnionItem.tags (u : UnionItem) : List (String × Nat) :=
  (noMember, 0) :: u.variants.zipIdx.map fun (variant, index) => (variant.1, index + 1)

/-- An emitted struct. -/
structure StructItem where
  derives : List String
  alignment : Nat
  ident : String
  fields : List FieldItem
  initials : Option (List (String × Initial))
  extent : Option Extent
  deriving DecidableEq

/-- An emitted table. -/
structure TableItem where
  derives : List String
  ident : String
  fields : List FieldItem
  initials : Option (List (String × Initial))
  constants : Option (List Constant)
  deriving DecidableEq

/-- One emitted type. -/
inductive Item where
  | enum (item : EnumItem)
  | union (item : UnionItem)
  | struct (item : StructItem)
  | table (item : TableItem)
  deriving DecidableEq

/-- The identifier of an emitted type. -/
def Item.ident : Item → String
  | enum item => item.ident
  | union item => item.ident
  | struct item => item.ident
  | table item => item.ident

/-- The code of one schema file: the modules around it, its header constants and its types. -/
structure SourceFile where
  path : String
  modules : List String
  usesSerialize : Bool
  fileIdentifier : Option String
  fileExtension : Option String
  items : List Item
  deriving DecidableEq

end WireSchema.Code
