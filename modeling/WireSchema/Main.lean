/-
WireSchema.Main — the program.
-/
import WireSchema.CommandLine.Run

namespace WireSchema

/-- The number of a system error. Some operations report it with a minus sign. -/
def systemErrorNumber (code : UInt32) : UInt32 :=
  min code (0 - code)

/-- The fault behind an error of the file system. -/
def IoFault.ofIOError (e : IO.Error) : IoFault :=
  match e with
  | .noFileOrDirectory .. => .notFound
  | .alreadyExists .. => .alreadyExists
  | .inappropriateType _ code _ | .resourceExhausted _ code _ | .invalidArgument _ code _ =>
    if systemErrorNumber code == 20 then .notDirectory
    else if systemErrorNumber code == 21 then .isDirectory
    else .other (toString e)
  | _ => .other (toString e)

/-- Runs a file operation. -/
def catchFault {α : Type} (action : IO α) : IO (Except IoFault α) := do
  match ← action.toBaseIO with
  | .ok value => return .ok value
  | .error e => return .error (.ofIOError e)

instance : Host IO where
  readText path := do
    match ← catchFault (IO.FS.readBinFile path) with
    | .error fault => return .error fault
    | .ok bytes =>
      match String.fromUTF8? bytes with
      | some text => return .ok text
      | none => return .error .invalidText
  isDirectory path := do
    match ← catchFault (IO.FS.readBinFile path) with
    | .error .isDirectory => return true
    | .error _ | .ok _ => return false
  createDirectory path := catchFault (IO.FS.createDir path)
  writeText path text := catchFault (IO.FS.writeFile path text)
  print text := IO.print text

end WireSchema

open WireSchema in
/-- Runs with the given arguments and reports an error. -/
def main (args : List String) : IO UInt32 := do
  let outcome : CommandLine.Outcome ← CommandLine.run args
  match outcome.report? with
  | some report => IO.eprintln report
  | none =>
    if outcome == .misused then
      IO.eprintln "usage: (check | ir | gen-rust) [OPTIONS] FILES"
  return outcome.exitCode.toUInt32
