/-
WireSchema.Code.Emit — the items of a compiled file.

* `unionVariants` — the variant names of a union's members: local names, with the namespace in front
  where two members share one.
* `SourceFile.ofCompiled` — the code of one file. It fails where a variant has no name of its own or a
  default does not fit its field.
-/
import WireSchema.Code.Identifier
import WireSchema.Code.Item
import WireSchema.Code.StringLiteral
import WireSchema.Compiled

namespace WireSchema.Code

open WireSchema.Resolved (Declaration)

/-- How a type is named from a namespace: types of other namespaces are named from the root. -/
def typePath (target : TypeName) (scopePath : List String) : TypePath :=
  if target.path == scopePath then .bare (typeIdent target.name)
  else .rooted (target.path.map moduleIdent) (typeIdent target.name)

/-- The traits an emitted type derives. -/
def derives (base : List String) (withDefault : Bool) (settings : CodeSettings) : List String :=
  base ++ (if withDefault then ["Default"] else []) ++
    if settings.deriveSerialize then ["Serialize"] else []

/-! ## Enums -/

/-- The constant a missing enum field reads as: the one with value zero, else the first. -/
def defaultConstant? (e : Resolved.Enum) : Option Symbol.EnumValue :=
  (e.values.find? fun v => v.value == 0).or e.values.head?

/-- The item of an enum. -/
def enumItem (e : Resolved.Enum) (settings : CodeSettings) : EnumItem where
  derives := derives ["Debug", "Clone", "Copy", "PartialEq", "Eq", "Hash"] false settings
  representation := e.underlying.nativeName
  ident := typeIdent e.name.name
  variants := e.values.map fun v => (typeIdent v.name, v.value)
  default := (defaultConstant? e).map fun v => typeIdent v.name

/-! ## Unions -/

/-- The name of a member with its namespace in front. -/
def qualifiedVariant (member : TypeName) : String :=
  escapeKeyword (String.join (member.path.map pascalCase) ++ pascalCase member.name)

/-- The variant names chosen for members: a local name that is shared is replaced. -/
def chosenVariants (members : List TypeName) : List String :=
  let locals := members.map fun member => typeIdent member.name
  (members.zip locals).map fun (member, ident) =>
    if 1 < locals.count ident then qualifiedVariant member else ident

/-- The first member whose chosen name is taken, or is the name for no member. -/
def clash? (taken : List String) : List (TypeName × String) → Option TypeName
  | [] => none
  | (member, variant) :: rest =>
    if variant == noMember || taken.contains variant then some member
    else clash? (variant :: taken) rest

/-- The variant names of a union's members, all different. -/
def unionVariants (u : Resolved.Union) : Except Error (List String) :=
  let variants := chosenVariants u.members
  match clash? [] (u.members.zip variants) with
  | some member => .error (.variantClash u.name member)
  | none => .ok variants

/-- The item of a union. -/
def unionItem (u : Resolved.Union) (scopePath : List String) (layout : Layout)
    (discriminant : Primitive) (settings : CodeSettings) : Except Error UnionItem := do
  let variants ← unionVariants u
  return {
    derives := derives ["Debug", "Clone", "PartialEq"] true settings
    ident := typeIdent u.name.name
    variants := variants.zip (u.members.map fun member => typePath member scopePath)
    tagType := discriminant.nativeName
    extent := if settings.emitLayoutConstants then some layout.extent else none }

/-! ## Fields -/

/-- The type of one value of a field. -/
def baseType (f : Resolved.Field) (scopePath : List String) : BaseType :=
  match f.type.kind with
  | .primitive p => .native p.nativeName
  | .enum | .union | .struct | .table => .named (typePath f.type.name scopePath)

/-- Table fields are optional; arrays are vectors, and unions have a variant for no member. -/
def tableHolder (f : Resolved.Field) : Holder :=
  if f.isArray then .vector
  else if f.type.kind == .union then .plain
  else .optional

/-- A default in emitted code, if its class fits the field's type. -/
def defaultValue? (f : Resolved.Field) (literal : Literal) (scopePath : List String) :
    Option Value :=
  match f.type.kind with
  | .enum => some (.variant (typePath f.type.name scopePath) (typeIdent literal.text))
  | .primitive p =>
    match p.typeClass, literal with
    | .bool, .bool _ => some (.verbatim literal.text)
    | .int, .integer _ | .char, .integer _ => some (.verbatim literal.text)
    | .float, .integer _ => some (.verbatim (literal.text ++ ".0"))
    | .float, .float _ => some (.verbatim literal.text)
    | .float, .ident name =>
      some (.verbatim (p.nativeName ++ if name == "nan" then "::NAN" else "::INFINITY"))
    | .string, .string text => some (.verbatim (stringLiteral text ++ ".to_string()"))
    | _, _ => none
  | .union | .struct | .table => none

/-- The initial value of a field, wrapped as the owner holds it. -/
def initial (wrap : Value → Initial) (scopePath : List String) (f : Resolved.Field) :
    Except Error (String × Initial) :=
  match f.default with
  | none => .ok (fieldIdent f.name, .fallback)
  | some literal =>
    match defaultValue? f literal scopePath with
    | some value => .ok (fieldIdent f.name, wrap value)
    | none => .error (.internal (.defaultSurvived literal f.name))

/-- The initial values of fields, if one of them has a default. -/
def initials (wrap : Value → Initial) (scopePath : List String) (fields : List Resolved.Field) :
    Except Error (Option (List (String × Initial))) :=
  if fields.any fun f => f.default.isSome then
    some <$> fields.mapM (initial wrap scopePath)
  else .ok none

/-! ## Structs and tables -/

/-- The item of a struct. -/
def structItem (s : Resolved.Compound) (scopePath : List String) (layout : Layout)
    (settings : CodeSettings) : Except Error StructItem := do
  let initials ← initials .plain scopePath s.fields
  return {
    derives := derives ["Debug", "Clone", "Copy", "PartialEq"] initials.isNone settings
    alignment := layout.alignment
    ident := typeIdent s.name.name
    fields := s.fields.map fun f => ⟨fieldIdent f.name, .plain, baseType f scopePath⟩
    initials
    extent := if settings.emitLayoutConstants then some layout.extent else none }

/-- The fields in use, with their index among all fields. -/
def liveFields (t : Resolved.Compound) : List (Nat × Resolved.Field) :=
  (t.fields.zipIdx.map fun (f, index) => (index, f)).filter fun entry => !entry.2.isDeprecated

/-- The offset constants of a field: its discriminant's, if it has one, then its own. -/
def fieldConstants (layout : Layout) (index : Nat) (f : Resolved.Field) : List Constant :=
  let tag := layout.tagOffsets.lookup index
  let offset := layout.fieldOffsets.bind fun offsets => offsets.lookup index
  (tag.map fun value => ⟨"VT_" ++ constIdent f.name ++ "_TYPE", value⟩).toList ++
    (offset.map fun value => ⟨"VT_" ++ constIdent f.name, value⟩).toList

/-- The constants of a table. -/
def tableConstants (t : Resolved.Compound) (layout : Layout) : List Constant :=
  [⟨"SIZE", layout.size⟩, ⟨"ALIGN", layout.alignment⟩,
   ⟨"VTABLE_SIZE", Wire.vtableSize t.fields.length⟩] ++
    (liveFields t).flatMap fun (index, f) => fieldConstants layout index f

/-- The item of a table; deprecated fields are left out. -/
def tableItem (t : Resolved.Compound) (scopePath : List String) (layout : Layout)
    (settings : CodeSettings) : Except Error TableItem := do
  let live := (liveFields t).map (·.2)
  let initials ← initials .present scopePath live
  return {
    derives := derives ["Debug", "Clone", "PartialEq"] initials.isNone settings
    ident := typeIdent t.name.name
    fields := live.map fun f => ⟨fieldIdent f.name, tableHolder f, baseType f scopePath⟩
    initials
    constants := if settings.emitLayoutConstants then some (tableConstants t layout) else none }

/-! ## Files -/

/-- The item of a compiled type. -/
def item (entry : Compiled.TypeEntry) (scopePath : List String) (discriminant : Primitive)
    (settings : CodeSettings) : Except Error Item :=
  match entry.declaration with
  | .enum e => .ok (.enum (enumItem e settings))
  | .union u => .union <$> unionItem u scopePath entry.layout discriminant settings
  | .struct s => .struct <$> structItem s scopePath entry.layout settings
  | .table t => .table <$> tableItem t scopePath entry.layout settings

/-- The code of the compiled file with a path. -/
def SourceFile.ofCompiled (compiled : Compiled) (path : String) (settings : CodeSettings) :
    Except Error SourceFile := do
  match compiled.file? path with
  | none => throw (.fileNotCompiled path)
  | some file =>
    let items ← file.order.mapM fun name =>
      match compiled.get? name with
      | none => .error (.internal (.neverCompiled name))
      | some entry => item entry file.scopePath compiled.unionDiscriminant settings
    return {
      path
      modules := file.scopePath.map moduleIdent
      usesSerialize := settings.deriveSerialize
      fileIdentifier := file.fileIdentifier
      fileExtension := file.fileExtension
      items }

end WireSchema.Code
