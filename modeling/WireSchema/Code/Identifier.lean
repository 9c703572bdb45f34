/-
WireSchema.Code.Identifier — identifiers of emitted code.

* `pascalCase` — for types and variants: words joined, each with a large first letter.
* `snakeCase` — for fields and modules: small letters, words separated by underscores, runs of large
  letters kept together.
* `escapeKeyword` — a keyword gets an underscore at its end.
-/
import WireSchema.Text.LetterCase
import WireSchema.Text.Split

namespace WireSchema.Code

open WireSchema.Text (isLowercase isUppercase lowercase uppercase)

/-- A word with a large first letter; the rest in small letters if asked for. -/
def capitalize (lowerRest : Bool) : List Char → List Char
  | [] => []
  | first :: rest => uppercase first ++ if lowerRest then Text.toLowercase rest else rest

/-- Words joined, each with a large first letter. A name without underscores keeps its letters, unless
all of them are large. -/
def pascalChars (cs : List Char) : List Char :=
  if cs.contains '_' then
    ((Text.split '_' cs).filter fun word => !word.isEmpty).flatMap (capitalize true)
  else capitalize (cs == Text.toUppercase cs) cs

/-- The form of a name used for types and variants. -/
def pascalCase (name : String) : String :=
  String.ofList (pascalChars name.toList)

/-- Whether a large letter starts a word: after a letter that is not large, or before a small one. -/
def startsWord (before : Option Char) (after : List Char) : Bool :=
  match before with
  | none => false
  | some c => !isUppercase c || after.head?.any isLowercase

/-- Small letters with an underscore at each word start. `before` is the character in front, and
`spaced` tells whether the result so far ends with an underscore. -/
def snakeFrom (before : Option Char) (spaced : Bool) : List Char → List Char
  | [] => []
  | c :: cs =>
    if isUppercase c then
      (if startsWord before cs && !spaced then ['_'] else []) ++ lowercase c ++
        snakeFrom (some c) ((lowercase c).getLast? == some '_') cs
    else c :: snakeFrom (some c) (c == '_') cs

/-- The form of a name used for fields and modules. -/
def snakeCase (name : String) : String :=
  String.ofList (snakeFrom none false name.toList)

/-- The words that cannot be identifiers. -/
def keywords : List String :=
  ["as", "async", "await", "break", "const", "continue", "crate", "dyn", "else", "enum", "extern",
   "false", "fn", "for", "if", "impl", "in", "let", "loop", "match", "mod", "move", "mut", "pub",
   "ref", "return", "self", "Self", "static", "struct", "super", "trait", "true", "type", "unsafe",
   "use", "where", "while"]

/-- A name that is no keyword. -/
def escapeKeyword (name : String) : String :=
  if keywords.contains name then name ++ "_" else name

/-- The identifier of a type or a variant. -/
def typeIdent (name : String) : String :=
  escapeKeyword (pascalCase name)

/-- The identifier of a field. -/
def fieldIdent (name : String) : String :=
  escapeKeyword (snakeCase name)

/-- The identifier of a module. -/
def moduleIdent (segment : String) : String :=
  escapeKeyword (snakeCase segment)

/-- The identifier of a constant. -/
def constIdent (name : String) : String :=
  String.ofList (Text.toUppercase (snakeCase name).toList)

end WireSchema.Code
