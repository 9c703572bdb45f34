/-
WireSchema.Compiled — a session that is checked, resolved, ordered and laid out.
-/
import WireSchema.Layout
import WireSchema.Order
import WireSchema.Rules

namespace WireSchema

open WireSchema.Resolved (Declaration)

namespace Compiled

/-- A declaration and its layout. -/
structure TypeEntry where
  declaration : Declaration
  layout : Layout
  deriving DecidableEq

/-- One file of a compiled session. -/
structure File where
  path : String
  scopePath : List String
  includes : List String
  rootTypes : List TypeName
  fileIdentifier : Option String
  fileExtension : Option String
  /-- The file's own types in emission order. -/
  order : List TypeName
  deriving DecidableEq

end Compiled

/-- A compiled session. -/
structure Compiled where
  unionDiscriminant : Primitive
  order : List TypeName
  /-- Every type, in emission order. -/
  types : OrderedMap TypeName Compiled.TypeEntry
  files : List Compiled.File
  deriving DecidableEq

namespace Compiled

/-- A type by name. -/
def get? (c : Compiled) (name : TypeName) : Option TypeEntry :=
  c.types.get? name

/-- The layout of a type by name. -/
def layout? (c : Compiled) (name : TypeName) : Option Layout :=
  (c.types.get? name).map (·.layout)

/-- A file by path. -/
def file? (c : Compiled) (path : String) : Option File :=
  c.files.find? fun file => file.path == path

/-- Takes the declaration and the layout of each ordered name out of two maps and adds them to the
types. A name that was taken before is lost. -/
def assemble (types : OrderedMap TypeName TypeEntry) (declarations : OrderedMap TypeName Declaration)
    (layouts : OrderedMap TypeName Layout) :
    List TypeName → Except Error (OrderedMap TypeName TypeEntry)
  | [] => .ok types
  | name :: rest =>
    match declarations.get? name, layouts.get? name with
    | some declaration, some layout =>
      assemble (types.insert name ⟨declaration, layout⟩) (declarations.erase name)
        (layouts.erase name) rest
    | _, _ => .error (.internal (.lost name))

/-- The part of a compiled session that belongs to one file. -/
def fileOf (session : Session) (order : List TypeName) (path : String) (file : SymbolTable) :
    Except Error File := do
  let own := file.declarationOrder.map fun name => (⟨file.scopePath, name⟩ : TypeName)
  return {
    path
    scopePath := file.scopePath
    includes := file.includes
    rootTypes := ← file.rootTypes.mapM (Scope.qualified ⟨session, file⟩)
    fileIdentifier := file.fileIdentifier
    fileExtension := file.fileExtension
    order := order.filter own.contains }

end Compiled

/-- Compiles a session: the discriminant first, then rules, resolution, order and layout. The first
error stops the compilation. -/
def Session.compile (session : Session) (settings : CompilerSettings) : Except Error Compiled := do
  let discriminant ← settings.discriminant
  Rules.session session settings
  let declarations ← Resolved.declarations session
  let order ← Order.establish declarations
  let layouts ← layouts declarations order discriminant
  let types ← Compiled.assemble {} declarations layouts order
  let files ← session.files.entries.mapM fun (path, file) =>
    Compiled.fileOf session order path file
  return ⟨discriminant, order, types, files⟩

/-- Compiles one schema text as a session of its own. -/
def compileText (path text : String) (settings : CompilerSettings) : Except Error Compiled := do
  let session ← Session.registerText {} path text
  session.compile settings

end WireSchema
