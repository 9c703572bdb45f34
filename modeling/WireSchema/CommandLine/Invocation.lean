/-
WireSchema.CommandLine.Invocation — what the arguments of a run ask for.

Options are read from left to right. Those for every command may stand before the command's name and
after it; each place allows an option once, and the place after the name wins. An option's value is the
next argument, or follows the option directly. After two dashes every argument names a file.

* `Invocation.read?` — the invocation that arguments describe; none if they are misused.
-/

namespace WireSchema.CommandLine

/-- The commands. -/
inductive Command where
  /-- Compile and report how many types there are. -/
  | check
  /-- Print the compiled session as a document. -/
  | document
  /-- Emit code for every file. -/
  | generate
  deriving DecidableEq

/-- A command by its name. -/
def Command.ofName? : String → Option Command
  | "check" => some check
  | "ir" => some document
  | "gen-rust" => some generate
  | _ => none

/-- The options. -/
inductive Switch where
  /-- Accepted for callers that pass it; a run reports the same with it. -/
  | verbose
  | config
  | unionDiscriminant
  | output
  | serialize
  deriving DecidableEq

namespace Switch

/-- An option by its long name. -/
def ofName? : String → Option Switch
  | "verbose" => some verbose
  | "config" => some config
  | "union-discriminant" => some unionDiscriminant
  | "output" => some output
  | "serde" => some serialize
  | _ => none

/-- An option by its letter. -/
def ofLetter? : Char → Option Switch
  | 'v' => some verbose
  | 'o' => some output
  | _ => none

/-- Whether an option is followed by a value. -/
def takesValue : Switch → Bool
  | config | unionDiscriminant | output => true
  | verbose | serialize => false

/-- Whether an option's value is a path, which is never empty. -/
def takesPath : Switch → Bool
  | config | output => true
  | verbose | unionDiscriminant | serialize => false

/-- Whether an option may be given more than once in one place. -/
def isRepeatable : Switch → Bool
  | verbose => true
  | config | unionDiscriminant | output | serialize => false

/-- Whether an option is known in a place: before the command's name, or after it. -/
def isKnown (place : Option Command) : Switch → Bool
  | verbose | config | unionDiscriminant => true
  | output | serialize => place == some .generate

end Switch

/-- An option that was given, with its value if it takes one. -/
structure Given where
  switch : Switch
  value : String := ""
  deriving DecidableEq

/-- The arguments read so far. -/
structure Reading where
  command : Option Command := none
  /-- Options before the command's name. -/
  outer : List Given := []
  /-- Options after the command's name. -/
  inner : List Given := []
  files : List String := []
  /-- The option whose value is the next argument. -/
  waiting : Option Switch := none
  /-- Whether two dashes ended the options. -/
  optionsEnded : Bool := false
  deriving DecidableEq

namespace Reading

/-- The options given in the current place. -/
def here (r : Reading) : List Given :=
  if r.command.isSome then r.inner else r.outer

/-- Adds an option in the current place. -/
def give? (r : Reading) (switch : Switch) (value : String) : Option Reading :=
  if switch.takesPath && value.isEmpty then none
  else if !switch.isRepeatable && r.here.any fun given => given.switch == switch then none
  else if r.command.isSome then some { r with inner := r.inner ++ [⟨switch, value⟩] }
  else some { r with outer := r.outer ++ [⟨switch, value⟩] }

/-- An argument that is no option: the command's name, then files. -/
def operand? (r : Reading) (arg : String) : Option Reading :=
  match r.command with
  | some _ => if arg.isEmpty then none else some { r with files := r.files ++ [arg] }
  | none =>
    if r.optionsEnded then none
    else (Command.ofName? arg).map fun command => { r with command := some command }

/-- An option by its long name, with its value if an equals sign follows. -/
def long? (r : Reading) (body : List Char) : Option Reading := do
  let switch ← Switch.ofName? (String.ofList (body.takeWhile (· != '=')))
  if !switch.isKnown r.command then none
  match body.dropWhile (· != '='), switch.takesValue with
  | [], true => some { r with waiting := some switch }
  | [], false => r.give? switch ""
  | _ :: value, true => r.give? switch (String.ofList value)
  | _ :: _, false => none

/-- Options by their letters; what follows the letter of an option with a value is the value. -/
def letters? (r : Reading) : List Char → Option Reading
  | [] => some r
  | letter :: rest => do
    let switch ← Switch.ofLetter? letter
    if !switch.isKnown r.command then none
    if switch.takesValue then
      match rest with
      | [] => some { r with waiting := some switch }
      | '=' :: value => r.give? switch (String.ofList value)
      | value => r.give? switch (String.ofList value)
    else (← r.give? switch "").letters? rest

/-- Reads one argument. -/
def step? (r : Reading) (arg : String) : Option Reading :=
  if r.optionsEnded then r.operand? arg
  else
    match r.waiting, arg.toList with
    | some _, '-' :: _ :: _ => none
    | some switch, _ => { r with waiting := none }.give? switch arg
    | none, ['-', '-'] => some { r with optionsEnded := true }
    | none, '-' :: '-' :: body => r.long? body
    | none, '-' :: letter :: rest => r.letters? (letter :: rest)
    | none, _ => r.operand? arg

/-- The value of an option: the one after the command's name wins. -/
def value? (r : Reading) (switch : Switch) : Option String :=
  ((r.inner ++ r.outer).find? fun given => given.switch == switch).map (·.value)

end Reading

/-- What a run is asked to do. -/
structure Invocation where
  command : Command
  files : List String
  config : Option String := none
  unionDiscriminant : Option String := none
  output : Option String := none
  serialize : Bool := false
  deriving DecidableEq

/-- The invocation that arguments describe. A command and a file are needed. -/
def Invocation.read? (args : List String) : Option Invocation := do
  let r ← args.foldlM Reading.step? {}
  let command ← r.command
  if r.waiting.isSome || r.files.isEmpty then none
  return {
    command
    files := r.files
    config := r.value? .config
    unionDiscriminant := r.value? .unionDiscriminant
    output := r.value? .output
    serialize := (r.value? .serialize).isSome }

end WireSchema.CommandLine
