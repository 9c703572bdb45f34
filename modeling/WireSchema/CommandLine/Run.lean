/-
WireSchema.CommandLine.Run — a run of the program.

A run reads its settings, then reads and registers each file in turn, compiles, and prints or writes
what its command asks for. The first error stops it; what was printed and written before stays.
-/
import WireSchema.Code.Render
import WireSchema.CommandLine.Invocation
import WireSchema.Compiled.Document
import WireSchema.Files.Host
import WireSchema.Settings.Reading

namespace WireSchema.CommandLine

/-! ## Output files -/

/-- The path of the code for a schema file: its stem in the output directory. -/
def outputPath (directory path : String) : String :=
  let name := (Path.stem path).map fun c => if c == '-' || c == '.' then '_' else c
  Path.join directory (name ++ ".rs")

/-- The output paths of schema files; two files with one output path are refused. `taken` are the
output paths so far, with their schema files. -/
def outputPathsFrom (directory : String) (taken : List (String × String)) :
    List String → Except Error (List String)
  | [] => .ok []
  | path :: rest => do
    let output := outputPath directory path
    match taken.lookup output with
    | some other => throw (.outputClash other path output)
    | none => return output :: (← outputPathsFrom directory ((output, path) :: taken) rest)

/-- The output paths of schema files, all different. -/
def outputPaths (directory : String) (paths : List String) : Except Error (List String) :=
  outputPathsFrom directory [] paths

/-! ## Steps -/

variable {m : Type → Type} [Monad m] [Host m]

/-- A result whose error stops the run. -/
def demand {α : Type} (result : Except Error α) : ExceptT Error m α :=
  ExceptT.mk (pure result)

/-- A file operation whose fault stops the run. -/
def attempt {α : Type} (action : m (Except IoFault α)) : ExceptT Error m α :=
  ExceptT.mk (Except.mapError .io <$> action)

/-- Prints a line. -/
def printLine (line : String) : ExceptT Error m Unit :=
  ExceptT.lift (Host.print (line ++ "\n"))

/-- The settings in a file. -/
def storedSettings (path : String) : ExceptT Error m Settings := do
  demand (Settings.ofText (← attempt (Host.readText path)))

/-- Settings with the options of a run in their place. -/
def override (invocation : Invocation) (stored : Settings) : Settings where
  compiler :=
    match invocation.unionDiscriminant with
    | some name => { stored.compiler with unionDiscriminant := name }
    | none => stored.compiler
  code := { stored.code with deriveSerialize := stored.code.deriveSerialize || invocation.serialize }

/-- The settings of a run. -/
def runSettings (invocation : Invocation) : ExceptT Error m Settings :=
  match invocation.config with
  | some path => override invocation <$> storedSettings path
  | none => pure (override invocation {})

/-- Reads, registers and compiles files. -/
def compileFiles (paths : List String) (settings : CompilerSettings) :
    ExceptT Error m Compiled := do
  let session ← paths.foldlM (fun (session : Session) path => do
    demand (session.registerText path (← attempt (Host.readText path)))) {}
  demand (session.compile settings)

/-- Writes code into a directory, and prints where each file went. -/
def writeCode (directory : String) (generated : List (String × String)) :
    ExceptT Error m Unit := do
  let outputs ← demand (outputPaths directory (generated.map (·.1)))
  attempt (Host.createDirectories directory)
  (generated.zip outputs).forM fun ((path, code), output) => do
    attempt (Host.writeText output code)
    printLine (path ++ " → " ++ output)

/-- What a command does with a compiled session. -/
def deliver (invocation : Invocation) (settings : CodeSettings) (compiled : Compiled) :
    ExceptT Error m Unit := do
  match invocation.command with
  | .check => printLine ("ok: " ++ toString compiled.types.size ++ " types")
  | .document => printLine compiled.documentText
  | .generate =>
    let generated ← demand (Code.generate compiled settings)
    match invocation.output with
    | some directory => writeCode directory generated
    | none => generated.forM fun entry => printLine entry.2

/-- Does what an invocation asks for. -/
def execute (invocation : Invocation) : ExceptT Error m Unit := do
  let settings ← runSettings invocation
  deliver invocation settings.code (← compileFiles invocation.files settings.compiler)

/-! ## Runs -/

/-- How a run ends. -/
inductive Outcome where
  | done
  | failed (error : Error)
  | misused
  deriving DecidableEq

namespace Outcome

/-- The exit code. -/
def exitCode : Outcome → Nat
  | done => 0
  | failed _ => 1
  | misused => 2

/-- The report of an error. -/
def report? : Outcome → Option String
  | failed error => some ("error: " ++ error.message)
  | done | misused => none

end Outcome

/-- A run with arguments. -/
def run (args : List String) : m Outcome := do
  match Invocation.read? args with
  | none => return .misused
  | some invocation =>
    match ← (execute invocation).run with
    | .ok () => return .done
    | .error error => return .failed error

end WireSchema.CommandLine
