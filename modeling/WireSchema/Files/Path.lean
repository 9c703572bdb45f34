/-
WireSchema.Files.Path — path texts.

* `names` — the names between slashes; an empty name and a dot stay where they are.
* `ancestors` — the paths above a path.
* `join`, `stem` — a name under a directory, and the name of a file without its extension.
-/
import WireSchema.Text.Split

namespace WireSchema.Path

/-- The names between slashes. -/
def names (path : String) : List String :=
  (Text.split '/' path.toList).map String.ofList

/-- Whether a name stays in the directory it is looked up in. -/
def staysPut (name : String) : Bool :=
  name == "" || name == "."

/-- Whether a path starts at the root. -/
def isAbsolute (path : String) : Bool :=
  path.toList.head? == some '/'

/-- The names of a path that lead somewhere, and a dot in front. -/
def steps (path : String) : List String :=
  let present := (names path).filter fun name => name != ""
  present.take 1 ++ (present.drop 1).filter fun name => name != "."

/-- The paths above a path, the nearest one first. -/
def ancestors (path : String) : List String :=
  let root := if isAbsolute path then "/" else ""
  ((List.range (steps path).length).drop 1).reverse.map fun depth =>
    root ++ "/".intercalate ((steps path).take depth)

/-- A name under a directory. -/
def join (directory name : String) : String :=
  if directory.toList.getLast? == some '/' then directory ++ name else directory ++ "/" ++ name

/-- A name up to its last dot, unless that dot comes first. -/
def withoutExtension (name : String) : String :=
  let kept := ['.'].intercalate (Text.split '.' name.toList).dropLast
  if kept.isEmpty then name else String.ofList kept

/-- The name of a file without its extension; the whole path if it ends in no name. -/
def stem (path : String) : String :=
  match ((names path).filter fun name => !staysPut name).getLast? with
  | some name => if name == ".." then path else withoutExtension name
  | none => path

end WireSchema.Path
