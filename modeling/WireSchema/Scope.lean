/-
WireSchema.Scope — what a type name written in a file stands for.

* A primitive's name always stands for the primitive.
* A name without a point that the file declares stands for that declaration.
* Otherwise the name is tried under the file's namespace, then under each shorter prefix of it, and
  last as it is; each candidate is looked up first in the file itself, then in every registered file
  of exactly that namespace, in registration order.
-/
import WireSchema.Session

namespace WireSchema

/-- A file seen in its session. -/
structure Scope where
  session : Session
  file : SymbolTable

/-- The scope of a registered file. -/
def Session.scope? (session : Session) (path : String) : Option Scope :=
  (session.file? path).map fun file => ⟨session, file⟩

namespace Scope

/-- The prefixes of a path, longest first. -/
def outwards (path : List String) : List (List String) :=
  (List.range (path.length + 1)).reverse.map fun depth => path.take depth

/-- The qualified names a written name may stand for, most specific first. -/
def candidates (scope : Scope) (name : String) : List TypeName :=
  let reference := TypeName.ofText name
  (outwards scope.file.scopePath).map fun path => ⟨path ++ reference.path, reference.name⟩

/-- The declaration of a qualified name: the file's own, else the first registered one. -/
def lookup? (scope : Scope) (candidate : TypeName) : Option Symbol.Declared :=
  let own :=
    if scope.file.scopePath == candidate.path then scope.file.find? candidate.name else none
  own.or <| scope.session.files.values.findSome? fun file =>
    if file.scopePath == candidate.path then file.find? candidate.name else none

/-- The declaration a name without points has in the file itself. -/
def local? (scope : Scope) (name : String) : Option Symbol.Declared :=
  if name.toList.contains '.' then none else scope.file.find? name

/-- The qualified name and the type a written name stands for. -/
def resolve? (scope : Scope) (name : String) : Option (TypeName × Symbol.Declared) :=
  match Primitive.ofName? name with
  | some p => some (⟨scope.file.scopePath, name⟩, .primitive p)
  | none =>
    match scope.local? name with
    | some declared => some (⟨scope.file.scopePath, name⟩, declared)
    | none =>
      (scope.candidates name).findSome? fun candidate =>
        (scope.lookup? candidate).map fun declared => (candidate, declared)

/-- The qualified name a written name stands for. -/
def qualified (scope : Scope) (name : String) : Except Error TypeName :=
  match scope.resolve? name with
  | some (qualified, _) => .ok qualified
  | none => .error (.unresolved name)

/-- The type a written name stands for. -/
def typeByName (scope : Scope) (name : String) : Except Error Symbol.Declared :=
  match scope.resolve? name with
  | some (_, declared) => .ok declared
  | none => .error (.unresolved name)

end Scope

end WireSchema
