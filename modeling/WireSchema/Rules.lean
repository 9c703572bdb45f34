/-
WireSchema.Rules — the rules a whole session has to keep.

* `Rules.uniqueNames` — no qualified name is declared twice.
* `Rules.file` — root types, unions, structs, tables, then enums of one file.
* `Rules.session` — all of it, the first violation reported.
-/
import WireSchema.Scope
import WireSchema.Settings

namespace WireSchema.Rules

open WireSchema.Symbol (Declared)

/-- The greatest alignment a struct may ask for. -/
def maxForceAlign : Nat := 256

/-- Whether a number is a power of two. -/
def isPowerOfTwo (n : Nat) : Bool :=
  n != 0 && Nat.pow 2 n.log2 == n

/-! ## Names -/

/-- Every declared name with the path of its file, in order. -/
def declaredNames (session : Session) : List (TypeName × String) :=
  session.files.entries.flatMap fun (path, file) =>
    file.declarationOrder.map fun name => (⟨file.scopePath, name⟩, path)

/-- Refuses the first name that was seen before. -/
def checkNames (seen : List (TypeName × String)) :
    List (TypeName × String) → Except Violation Unit
  | [] => .ok ()
  | (name, path) :: rest =>
    match seen.lookup name with
    | some previous => .error (.repeatedName name previous path)
    | none => checkNames ((name, path) :: seen) rest

/-- No qualified name is declared twice. -/
def uniqueNames (session : Session) : Except Violation Unit :=
  checkNames [] (declaredNames session)

/-! ## Metadata -/

/-- Whether some file of the session declares an attribute. -/
def isDeclaredAttribute (scope : Scope) (name : String) : Bool :=
  scope.file.attributes.contains name ||
    scope.session.files.values.any fun file => file.attributes.contains name

/-- An attribute in use is declared. -/
def userAttribute (scope : Scope) (location : Location) (name : String) : Except Violation Unit :=
  if isDeclaredAttribute scope name then .ok () else .error (.undeclaredAttribute location name)

/-- Forced alignments stand on structs and are small powers of two; attributes are declared. -/
def declarationEntry (scope : Scope) (kind : Kind) (owner : String) (entry : Metadata) :
    Except Violation Unit :=
  let location := Location.declaration kind owner
  match entry with
  | .forceAlign bytes =>
    if kind != .struct then .error (.forceAlignPlace location)
    else if !isPowerOfTwo bytes || maxForceAlign < bytes then
      .error (.forceAlignValue location maxForceAlign bytes)
    else .ok ()
  | .user name _ => userAttribute scope location name
  | .deprecated | .required | .key | .builtin .. => .ok ()

/-- The metadata of a declaration. -/
def declarationMetadata (scope : Scope) (kind : Kind) (owner : String) (entries : List Metadata) :
    Except Violation Unit :=
  entries.forM (declarationEntry scope kind owner)

/-! ## Fields -/

/-- Whether a type is stored inline with a size of its own. -/
def isFixedSize : Declared → Bool
  | .primitive p => p.isScalar
  | .enum _ | .struct _ => true
  | .union _ | .table _ => false

/-- Whether a type is a single number or truth value. -/
def isScalar : Declared → Bool
  | .primitive p => p.isScalar
  | .enum _ => true
  | .union _ | .struct _ | .table _ => false

/-- Whether a literal names a constant of an enum. -/
def namesConstant (e : Symbol.Enum) : Literal → Bool
  | .ident name => e.names.contains name
  | .bool _ | .integer _ | .float _ | .string _ => false

/-- A default stands on a field that is no array, and is a constant of the enum or a value of the
primitive. -/
def fieldDefault (location : Location) (field : Symbol.Field) (declared : Declared) :
    Except Violation Unit :=
  match field.default with
  | none => .ok ()
  | some value =>
    if field.isArray then .error (.defaultOnArray location field.typeLiteral)
    else
      match declared with
      | .enum e =>
        if namesConstant e value then .ok ()
        else .error (.defaultNotInEnum location value e.names)
      | .primitive p =>
        if value.fits p then .ok () else .error (.defaultNotInPrimitive location value p)
      | .union _ | .struct _ | .table _ =>
        .error (.defaultOnAggregate location field.typeLiteral)

/-- A metadata entry of a field. -/
def fieldEntry (scope : Scope) (kind : Kind) (location : Location) (field : Symbol.Field)
    (declared : Declared) (entry : Metadata) : Except Violation Unit :=
  match entry with
  | .deprecated => if kind == .struct then .error (.deprecatedInStruct location) else .ok ()
  | .required =>
    if kind == .struct || (!field.isArray && isScalar declared) then
      .error (.requiredScalar location)
    else .ok ()
  | .forceAlign _ => .error (.forceAlignPlace location)
  | .user name _ => userAttribute scope location name
  | .key | .builtin .. => .ok ()

/-- A field's type is known, its default fits, a struct's field has a fixed size, and its metadata is
in place. -/
def field (scope : Scope) (kind : Kind) (owner : String) (f : Symbol.Field) :
    Except Violation Unit :=
  let location := Location.field f.name kind owner
  match scope.resolve? f.typeName with
  | none => .error (.fieldTypeMissing f.name kind owner f.typeLiteral f.typeName)
  | some (_, declared) => do
    fieldDefault location f declared
    if kind == .struct && (f.isArray || !isFixedSize declared) then
      throw (.notFixedSize location f.typeLiteral)
    f.metadata.forM (fieldEntry scope kind location f declared)

/-- A struct or a table: its fields, then its metadata. -/
def compound (scope : Scope) (kind : Kind) (name : String) (c : Symbol.Compound) :
    Except Violation Unit := do
  c.fields.forM (field scope kind name)
  declarationMetadata scope kind name c.metadata

/-! ## Roots and unions -/

/-- A root type is a table. -/
def root (scope : Scope) (name : String) : Except Violation Unit :=
  match scope.resolve? name with
  | some (_, .table _) => .ok ()
  | some (_, other) => .error (.rootNotTable name other.kind)
  | none => .error (.rootMissing name)

/-- A union member is a table. -/
def member (scope : Scope) (union name : String) : Except Violation Unit :=
  match scope.resolve? name with
  | some (_, .table _) => .ok ()
  | some (_, other) => .error (.memberNotTable name union other.kind)
  | none => .error (.memberMissing name union)

/-- How many members a union can have under a discriminant; zero is kept for no member. -/
def memberLimit (discriminant : Primitive) : Nat :=
  match discriminant.integerRange? with
  | some (_, greatest) => greatest.toNat
  | none => 18446744073709551615

/-- A union fits its discriminant, its members are tables, and its metadata is in place. -/
def union (scope : Scope) (discriminant : Primitive) (name : String) (u : Symbol.Union) :
    Except Violation Unit := do
  if memberLimit discriminant < u.members.length then
    throw (.unionTooLarge name u.members.length discriminant (memberLimit discriminant))
  u.members.forM (member scope name)
  declarationMetadata scope .union name u.metadata

/-! ## Files and sessions -/

/-- The declarations of one file, under a discriminant. -/
def declarations (scope : Scope) (discriminant : Primitive) : Except Violation Unit := do
  scope.file.unions.entries.forM fun (name, u) => union scope discriminant name u
  scope.file.structs.entries.forM fun (name, s) => compound scope .struct name s
  scope.file.tables.entries.forM fun (name, t) => compound scope .table name t
  scope.file.enums.entries.forM fun (name, e) => declarationMetadata scope .enum name e.metadata

/-- One file: its root types, then its declarations under the discriminant of the settings. -/
def file (scope : Scope) (settings : CompilerSettings) : Except Error Unit := do
  (scope.file.rootTypes.forM (root scope)).mapError .rule
  let discriminant ← settings.discriminant
  (declarations scope discriminant).mapError .rule

/-- A whole session: unique names, then each file in turn. -/
def session (s : Session) (settings : CompilerSettings) : Except Error Unit := do
  (uniqueNames s).mapError .rule
  s.files.values.forM fun table => file ⟨s, table⟩ settings

end WireSchema.Rules
