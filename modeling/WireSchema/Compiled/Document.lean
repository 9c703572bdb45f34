/-
WireSchema.Compiled.Document — a compiled session as a JSON document.
-/
import WireSchema.Compiled
import WireSchema.Json

namespace WireSchema

/-- A literal under the name of its class. -/
def Literal.toJson : Literal → Json
  | bool value => .object [("Bool", .bool value)]
  | integer value => .object [("Integer", .integer value)]
  | float value => .object [("Float", .float value)]
  | string text => .object [("String", .string text)]
  | ident name => .object [("Ident", .string name)]

/-- A metadata entry, with its content if it has one. -/
def Metadata.toJson : Metadata → Json
  | deprecated => .string "Deprecated"
  | required => .string "Required"
  | key => .string "Key"
  | forceAlign bytes => .object [("ForceAlign", .natural bytes)]
  | builtin name value =>
    .object [("Builtin", .object [("name", .string name), ("value", .ofOption Literal.toJson value)])]
  | user name value =>
    .object [("User", .object [("name", .string name), ("value", .ofOption Literal.toJson value)])]

/-- A constant of an enum. -/
def Symbol.EnumValue.toJson (v : Symbol.EnumValue) : Json :=
  .object [("name", .string v.name), ("value", .integer v.value)]

/-- A qualified name. -/
def TypeName.toJson (n : TypeName) : Json :=
  .string n.text

namespace Resolved

/-- The kind of a reference. -/
def TypeKind.toJson : TypeKind → Json
  | primitive p => .object [("primitive", .string p.name)]
  | enum => .string "enum"
  | union => .string "union"
  | struct => .string "struct"
  | table => .string "table"

/-- A field. -/
def Field.toJson (f : Field) : Json :=
  .object [
    ("name", .string f.name),
    ("ty", .object [("name", f.type.name.toJson), ("kind", f.type.kind.toJson)]),
    ("is_array", .bool f.isArray),
    ("default_value", .ofOption Literal.toJson f.default),
    ("metadata", .ofList Metadata.toJson f.metadata)]

/-- The members of a struct or a table. -/
def Compound.members (c : Compound) : List (String × Json) :=
  [("name", c.name.toJson),
   ("fields", .ofList Field.toJson c.fields),
   ("metadata", .ofList Metadata.toJson c.metadata),
   ("force_align", .ofOption .natural c.forceAlign)]

/-- A declaration, its kind first. -/
def Declaration.toJson : Declaration → Json
  | enum e => .object [
      ("kind", .string "enum"),
      ("name", e.name.toJson),
      ("underlying", .string e.underlying.name),
      ("values", .ofList Symbol.EnumValue.toJson e.values),
      ("metadata", .ofList Metadata.toJson e.metadata)]
  | union u => .object [
      ("kind", .string "union"),
      ("name", u.name.toJson),
      ("members", .ofList TypeName.toJson u.members),
      ("metadata", .ofList Metadata.toJson u.metadata)]
  | struct s => .object (("kind", .string "struct") :: s.members)
  | table t => .object (("kind", .string "table") :: t.members)

end Resolved

namespace Layout

/-- Offsets by field index. -/
def offsetsJson (offsets : List (Nat × Nat)) : Json :=
  .object (offsets.map fun (index, offset) => (toString index, .natural offset))

/-- A layout; only a table has offsets, and only one with union fields has tag offsets. -/
def toJson (l : Layout) : Json :=
  let fields :=
    match l.fieldOffsets with
    | some offsets => [("field_offsets", offsetsJson offsets)]
    | none => []
  let tags := if l.tagOffsets.isEmpty then [] else [("union_tag_offsets", offsetsJson l.tagOffsets)]
  .object ([("alignment", .natural l.alignment), ("size", .natural l.size)] ++ fields ++ tags)

end Layout

namespace Compiled

/-- A type. -/
def TypeEntry.toJson (t : TypeEntry) : Json :=
  .object [("declaration", t.declaration.toJson), ("layout", t.layout.toJson)]

/-- A file. -/
def File.toJson (f : File) : Json :=
  .object [
    ("path", .string f.path),
    ("namespace", .ofList .string f.scopePath),
    ("includes", .ofList .string f.includes),
    ("root_types", .ofList TypeName.toJson f.rootTypes),
    ("file_identifier", .ofOption .string f.fileIdentifier),
    ("file_extension", .ofOption .string f.fileExtension),
    ("order", .ofList TypeName.toJson f.order)]

/-- A compiled session. -/
def toJson (c : Compiled) : Json :=
  .object [
    ("union_discriminant", .string c.unionDiscriminant.name),
    ("order", .ofList TypeName.toJson c.order),
    ("types", .object (c.types.entries.map fun (name, entry) => (name.text, entry.toJson))),
    ("files", .ofList File.toJson c.files)]

/-- The JSON text of a compiled session. -/
def documentText (c : Compiled) : String :=
  c.toJson.pretty

end Compiled

end WireSchema
