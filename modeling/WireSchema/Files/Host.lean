/-
WireSchema.Files.Host — what a run needs from its surroundings: files and a place to print.

* `Host` — the operations.
* `Host.createDirectories` — a directory with all that is missing above it.
-/
import WireSchema.Error
import WireSchema.Files.Path

namespace WireSchema

/-- Files that can be read and written, and an output. -/
class Host (m : Type → Type) where
  /-- The text of a file. -/
  readText : (path : String) → m (Except IoFault String)
  /-- Whether a path leads to a directory. -/
  isDirectory : (path : String) → m Bool
  /-- Makes one directory. -/
  createDirectory : (path : String) → m (Except IoFault Unit)
  /-- Writes a file, in place of one that is there. -/
  writeText : (path text : String) → m (Except IoFault Unit)
  /-- Prints a text. -/
  print : (text : String) → m Unit

namespace Host

variable {m : Type → Type} [Monad m] [Host m]

/-- Makes one directory, or accepts the one that is there. -/
def orPresent (path : String) (result : Except IoFault Unit) : m (Except IoFault Unit) := do
  match result with
  | .ok () => return .ok ()
  | .error fault => return if ← isDirectory path then .ok () else .error fault

/-- Makes a directory; only if one above it is missing, makes that first. -/
def createBelow (path : String) : (ancestors : List String) → m (Except IoFault Unit)
  | [] => do orPresent path (← createDirectory path)
  | parent :: ancestors => do
    match ← createDirectory path with
    | .error .notFound =>
      match ← createBelow parent ancestors with
      | .ok () => orPresent path (← createDirectory path)
      | .error fault => return .error fault
    | result => orPresent path result

/-- Makes a directory and those above it, unless they are there. -/
def createDirectories (path : String) : m (Except IoFault Unit) :=
  createBelow path (Path.ancestors path)

end Host

end WireSchema
