/-
WireSchema.Resolved — declarations whose type references are resolved.

`Resolved.declarations` takes every declaration of a session, files in registration order and
declarations in source order, and replaces written type names by qualified ones with their kind.
-/
import WireSchema.Scope

namespace WireSchema.Resolved

/-- What a resolved type reference stands for. -/
inductive TypeKind where
  | primitive (p : Primitive)
  | enum
  | union
  | struct
  | table
  deriving DecidableEq

/-- The kind of a type found by name. -/
def TypeKind.ofDeclared : Symbol.Declared → TypeKind
  | .primitive p => .primitive p
  | .enum _ => .enum
  | .union _ => .union
  | .struct _ => .struct
  | .table _ => .table

/-- A resolved type reference. A primitive carries the namespace of the file that names it. -/
structure TypeRef where
  name : TypeName
  kind : TypeKind
  deriving DecidableEq

/-- Whether a reference orders the emitted declarations. -/
def TypeRef.isDependency (ref : TypeRef) : Bool :=
  match ref.kind with
  | .union | .struct | .table => true
  | .primitive _ | .enum => false

/-- A field with its type resolved. -/
structure Field where
  name : String
  type : TypeRef
  isArray : Bool
  default : Option Literal
  metadata : List Metadata
  deriving DecidableEq

/-- Whether the field is no longer in use. -/
def Field.isDeprecated (f : Field) : Bool :=
  f.metadata.contains .deprecated

/-- An enum under its qualified name. -/
structure Enum where
  name : TypeName
  underlying : Primitive
  values : List Symbol.EnumValue
  metadata : List Metadata
  deriving DecidableEq

/-- A union of qualified names. -/
structure Union where
  name : TypeName
  members : List TypeName
  metadata : List Metadata
  deriving DecidableEq

/-- A struct or a table. Only a struct has a forced alignment. -/
structure Compound where
  name : TypeName
  fields : List Field
  metadata : List Metadata
  forceAlign : Option Nat
  deriving DecidableEq

/-- A resolved declaration. -/
inductive Declaration where
  | enum (e : Enum)
  | union (u : Union)
  | struct (s : Compound)
  | table (t : Compound)
  deriving DecidableEq

namespace Declaration

/-- The qualified name. -/
def name : Declaration → TypeName
  | enum e => e.name
  | union u => u.name
  | struct s => s.name
  | table t => t.name

/-- The kind. -/
def kind : Declaration → Kind
  | enum _ => .enum
  | union _ => .union
  | struct _ => .struct
  | table _ => .table

/-- Whether the declaration is an enum. -/
def isEnum (d : Declaration) : Bool :=
  d.kind == .enum

/-- The references that order the emitted declarations, in order, repeats included. -/
def references : Declaration → List TypeName
  | enum _ => []
  | union u => u.members
  | struct c | table c => (c.fields.filter fun f => f.type.isDependency).map fun f => f.type.name

/-- The references without repeats. -/
def dependencies (d : Declaration) : List TypeName :=
  d.references.foldl (fun seen name => if seen.contains name then seen else seen ++ [name]) []

end Declaration

/-! ## Resolving a session -/

/-- Resolves the type of a field. -/
def field (scope : Scope) (f : Symbol.Field) : Except Error Field :=
  match scope.resolve? f.typeName with
  | some (name, declared) =>
    .ok ⟨f.name, ⟨name, .ofDeclared declared⟩, f.isArray, f.default, f.metadata⟩
  | none => .error (.unresolved f.typeName)

/-- Resolves the declaration with a local name. -/
def declaration (scope : Scope) (name : String) : Except Error Declaration := do
  let qualified : TypeName := ⟨scope.file.scopePath, name⟩
  match scope.file.find? name with
  | some (.enum e) => return .enum ⟨qualified, e.underlying, e.values, e.metadata⟩
  | some (.union u) => return .union ⟨qualified, ← u.members.mapM scope.qualified, u.metadata⟩
  | some (.struct s) =>
    return .struct ⟨qualified, ← s.fields.mapM (field scope), s.metadata, s.forceAlign?⟩
  | some (.table t) =>
    return .table ⟨qualified, ← t.fields.mapM (field scope), t.metadata, none⟩
  | some (.primitive _) | none => throw (.internal (.listedButMissing name))

/-- Every declaration of a session under its qualified name. -/
def declarations (session : Session) : Except Error (OrderedMap TypeName Declaration) :=
  session.files.values.foldlM (fun done file =>
    file.declarationOrder.foldlM (fun done name => do
      let resolved ← declaration ⟨session, file⟩ name
      return done.insert resolved.name resolved) done) {}

end WireSchema.Resolved
