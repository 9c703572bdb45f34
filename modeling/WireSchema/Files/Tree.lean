/-
WireSchema.Files.Tree — a directory held in memory.

A place is the list of names that lead to it from the working directory; names of two dots in
front lead above it. Looking up a path goes name by name, and every name but the last must lead to a
directory.

* `FileTree` — files and directories by place.
* `Desk` — a file tree and what was printed; a `Host` by its state.
-/
import WireSchema.Files.Host
import WireSchema.OrderedMap

namespace WireSchema

/-- What is at a place: a directory, or a file with its text, if its bytes are text. -/
inductive Node where
  | directory
  | file (text : Option String)
  deriving DecidableEq

/-- Names from the working directory on. -/
abbrev Place := List String

/-- Files and directories by place. -/
structure FileTree where
  nodes : OrderedMap Place Node := {}
  deriving DecidableEq

namespace FileTree

/-! ## Places -/

/-- The directory above a place. -/
def above (here : Place) : Place :=
  if here.all (· == "..") then here ++ [".."]
  else if here == ["/"] then here
  else here.dropLast

/-- Where the lookup of a path starts: absolute paths have a root of their own. -/
def origin (path : String) : Place :=
  if Path.isAbsolute path then ["/"] else []

/-- What is at a place. The working directory, those above it and the root are always there. -/
def node? (tree : FileTree) (here : Place) : Option Node :=
  if here.all (· == "..") || here == ["/"] then some .directory else tree.nodes.get? here

/-- Refuses a place that is no directory. -/
def expectDirectory (tree : FileTree) (here : Place) : Except IoFault Unit :=
  match tree.node? here with
  | some .directory => .ok ()
  | some (.file _) => .error .notDirectory
  | none => .error .notFound

/-- The place that names lead to. -/
def walk (tree : FileTree) (here : Place) : List String → Except IoFault Place
  | [] => .ok here
  | name :: rest => do
    tree.expectDirectory here
    if Path.staysPut name then tree.walk here rest
    else if name == ".." then tree.walk (above here) rest
    else tree.walk (here ++ [name]) rest

/-- The place that a path leads to. -/
def locate (tree : FileTree) (path : String) : Except IoFault Place :=
  tree.walk (origin path) (Path.names path)

/-! ## Reading -/

/-- The text of the file at a path. -/
def readText (tree : FileTree) (path : String) : Except IoFault String := do
  match tree.node? (← tree.locate path) with
  | none => .error .notFound
  | some .directory => .error .isDirectory
  | some (.file none) => .error .invalidText
  | some (.file (some text)) => .ok text

/-- Whether a path leads to a directory. -/
def isDirectory (tree : FileTree) (path : String) : Bool :=
  match tree.locate path with
  | .ok here => tree.node? here == some .directory
  | .error _ => false

/-! ## Writing -/

/-- Puts a node at a place. -/
def put (tree : FileTree) (here : Place) (node : Node) : FileTree :=
  ⟨tree.nodes.insert here node⟩

/-- Puts a file at a place, with the directories above it. -/
def putFile (tree : FileTree) (here : Place) (text : Option String) : FileTree :=
  let directories := ((List.range here.length).drop 1).map fun depth => here.take depth
  (directories.foldl (fun tree place => tree.put place .directory) tree).put here (.file text)

/-- Writes the file at a path. -/
def writeText (tree : FileTree) (path text : String) : Except IoFault FileTree := do
  let here ← tree.locate path
  match tree.node? here with
  | some .directory => .error .isDirectory
  | some (.file _) | none => return tree.put here (.file (some text))

/-- Makes the directory at a path, in a directory that is there. -/
def createDirectory (tree : FileTree) (path : String) : Except IoFault FileTree :=
  let names := (Path.names path).filter fun name => name != ""
  match names.getLast? with
  | none => .error .alreadyExists
  | some name => do
    let here ← tree.walk (origin path) names.dropLast
    tree.expectDirectory here
    if name == "." || name == ".." || (tree.node? (here ++ [name])).isSome then
      .error .alreadyExists
    else return tree.put (here ++ [name]) .directory

end FileTree

/-! ## A tree with an output -/

/-- A tree of files and what was printed. -/
structure Desk where
  tree : FileTree := {}
  printed : String := ""
  deriving DecidableEq

namespace Desk

/-- Changes the tree, if that succeeds. -/
def change (f : FileTree → Except IoFault FileTree) : StateM Desk (Except IoFault Unit) := do
  let desk ← get
  match f desk.tree with
  | .ok tree =>
    set { desk with tree }
    return .ok ()
  | .error fault => return .error fault

end Desk

instance : Host (StateM Desk) where
  readText path := do return (← get).tree.readText path
  isDirectory path := do return (← get).tree.isDirectory path
  createDirectory path := Desk.change fun tree => tree.createDirectory path
  writeText path text := Desk.change fun tree => tree.writeText path text
  print text := modify fun desk => { desk with printed := desk.printed ++ text }

end WireSchema
