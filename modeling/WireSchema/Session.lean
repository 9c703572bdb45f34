/-
WireSchema.Session — the schema files of one compilation, in registration order.
-/
import WireSchema.Source.Parser
import WireSchema.SymbolTable.Build

namespace WireSchema

/-- The symbol table of a schema text. -/
def SymbolTable.ofText (text : String) : Except Error SymbolTable := do
  let tokens ← (Token.scan text).mapError .parse
  let schema ← (Source.parse tokens).mapError .parse
  (SymbolTable.build schema).mapError .build

/-- Files by path; a path is registered once. -/
structure Session where
  files : OrderedMap String SymbolTable := {}
  deriving DecidableEq

namespace Session

/-- The file registered under a path. -/
def file? (session : Session) (path : String) : Option SymbolTable :=
  session.files.get? path

/-- Adds a file under a new path. -/
def register (session : Session) (path : String) (file : SymbolTable) : Except Error Session :=
  if session.files.contains path then .error (.repeatedFile path)
  else .ok ⟨session.files.insert path file⟩

/-- Reads a schema text and adds it under a new path. -/
def registerText (session : Session) (path text : String) : Except Error Session := do
  let file ← SymbolTable.ofText text
  session.register path file

/-- Adds schema texts in order. -/
def registerTexts (session : Session) (texts : List (String × String)) : Except Error Session :=
  texts.foldlM (fun session entry => session.registerText entry.1 entry.2) session

end Session

end WireSchema
