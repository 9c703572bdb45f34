/-
WireSchema.Source.Parser — reading declarations from tokens.

* `Cursor` — the tokens not yet read. Once all are read the last one is seen again and again, so a
  list without an end token never parses.
* `Parser.many` — repeats a step; every step that goes on has read a token, so the repetition ends.
* `Source.parse` — the declarations of a token list, or the first fault and its place.

Keywords are not reserved: any of them may stand where an identifier may.
-/
import WireSchema.Number.Reading
import WireSchema.Source
import WireSchema.Token

namespace WireSchema

namespace Source

/-! ## Classes of token text -/

/-- Whether a text is an identifier. -/
def isIdentifier (text : String) : Bool :=
  match text.toList with
  | c :: cs => Lexeme.isIdentifierStart c && cs.all Lexeme.isIdentifierPart
  | [] => false

/-- Whether a text is a sign and digits. -/
def isInteger (text : String) : Bool :=
  0 < Lexeme.wholeLength text.toList && Lexeme.wholeLength text.toList == text.length

/-- Whether a text is a numeral with optional fraction and exponent. -/
def isNumeral (text : String) : Bool :=
  0 < Lexeme.numeralLength text.toList && Lexeme.numeralLength text.toList == text.length

/-- The text between double quotes, if nothing but the ends is a quote. -/
def unquote? (text : String) : Option String :=
  match text.toList with
  | '"' :: cs =>
    if cs.getLast? == some '"' && !cs.dropLast.contains '"' then some (String.ofList cs.dropLast)
    else none
  | _ => none

/-- Whether a text is a string in double quotes. -/
def isString (text : String) : Bool :=
  (unquote? text).isSome

end Source

/-- Whether a token text is what the parser looks for. -/
def Expectation.accepts (what : Expectation) (text : String) : Bool :=
  match what with
  | string => Source.isString text
  | identifier => Source.isIdentifier text
  | identifierOrString => Source.isString text || Source.isIdentifier text
  | integer => Source.isInteger text
  | symbol expected => text == expected

namespace Source

/-! ## The cursor -/

/-- The tokens not yet read, and the last of all tokens. -/
structure Cursor where
  rest : List Token
  last : Token

namespace Cursor

/-- A cursor on the first token. -/
def ofTokens (tokens : List Token) : Cursor :=
  ⟨tokens, tokens.getLast?.getD ⟨"", .start⟩⟩

/-- The token to be read next; after the last token, the last token. -/
def current (c : Cursor) : Token :=
  c.rest.headD c.last

/-- The cursor behind the current token. -/
def advance (c : Cursor) : Cursor :=
  { c with rest := c.rest.tail }

end Cursor

/-- A reader of tokens that stops at the first fault. -/
abbrev Parser (α : Type) := StateT Cursor (Except ParseError) α

namespace Parser

variable {α : Type}

/-- The token to be read next. -/
def current : Parser Token :=
  fun c => .ok (c.current, c)

/-- Stops with a fault at a token. -/
def fail (token : Token) (fault : ParseFault) : Parser α :=
  fun _ => .error ⟨token.pos, fault⟩

/-- Reads the current token if its text passes the test. The end is never read. -/
def eatIf (test : String → Bool) : Parser Bool :=
  fun c =>
    if test c.current.text && !c.current.isEnd then .ok (true, c.advance) else .ok (false, c)

/-- Reads the current token if it is this word or symbol. -/
def eat (text : String) : Parser Bool :=
  eatIf (· == text)

/-- Reads the current token, which must be what is looked for. -/
def expect (what : Expectation) : Parser Token :=
  fun c =>
    if what.accepts c.current.text && !c.current.isEnd then .ok (c.current, c.advance)
    else .error ⟨c.current.pos, .expected what c.current.text⟩

/-- Repeats a step until it gives nothing, and collects what it gave. -/
def many (step : Parser (Option α)) : Parser (List α) := fun c =>
  match step c with
  | .error e => .error e
  | .ok (none, after) => .ok ([], after)
  | .ok (some a, after) =>
    if after.rest.length < c.rest.length then
      match many step after with
      | .error e => .error e
      | .ok (as, final) => .ok (a :: as, final)
    else .error ⟨after.current.pos, .unexpected after.current.text⟩
termination_by c => c.rest.length

/-! ## The grammar -/

/-- Names separated by points. -/
def path : Parser (List String) := do
  let first ← expect .identifier
  let more ← many do
    if ← eat "." then
      let token ← expect .identifier
      return some token.text
    else return none
  return first.text :: more

/-- Names separated by points, as one text. -/
def dottedPath : Parser String := do
  return ".".intercalate (← path)

/-- An integer. -/
def integer : Parser Int := do
  let token ← expect .integer
  match Number.integer? token.text with
  | some value => return value
  | none => fail token (.invalidInteger token.text)

/-- A value: an integer, another number, a string, a truth value or an identifier, whichever class
the token has first. -/
def literalOf (token : Token) : Except ParseFault Literal :=
  if isInteger token.text then
    match Number.integer? token.text with
    | some value => .ok (.integer value)
    | none => .error (.invalidInteger token.text)
  else if isNumeral token.text then
    match Number.binary64? token.text with
    | some value => .ok (.float value)
    | none => .error (.invalidNumber token.text)
  else
    match unquote? token.text with
    | some text => .ok (.string text)
    | none =>
      if token.text == "true" then .ok (.bool true)
      else if token.text == "false" then .ok (.bool false)
      else if isIdentifier token.text then .ok (.ident token.text)
      else .error (.noValue token.text)

/-- Reads a value. -/
def literal : Parser Literal :=
  fun c =>
    match literalOf c.current with
    | .ok value => .ok (value, c.advance)
    | .error fault => .error ⟨c.current.pos, fault⟩

/-- A metadata entry. -/
def metadataEntry : Parser MetadataEntry := do
  let name ← expect .identifier
  if ← eat ":" then return ⟨name.text, some (← literal)⟩
  else return ⟨name.text, none⟩

/-- An optional list of metadata entries in parentheses, without a comma at its end. -/
def metadata : Parser (List MetadataEntry) := do
  if ← eat "(" then
    if ← eat ")" then return []
    else
      let first ← metadataEntry
      let more ← many do
        if ← eat ")" then return none
        else
          let _ ← expect (.symbol ",")
          return some (← metadataEntry)
      return first :: more
  else return []

/-- One enum constant or union member. -/
def value : Parser Value := do
  let token ← current
  let name ← dottedPath
  if ← eat "=" then return ⟨name, some (← integer), token.pos⟩
  else return ⟨name, none, token.pos⟩

/-- Enum constants or union members in braces: at least one, with an optional comma at the end. -/
def values : Parser (List Value) := do
  let _ ← expect (.symbol "\x7b")
  let first ← value
  let more ← many do
    if ← eat "," then
      let token ← current
      if token.text == "\x7d" then return none
      else return some (← value)
    else return none
  let _ ← expect (.symbol "\x7d")
  return first :: more

/-- An enum behind its keyword. -/
def enum : Parser Enum := do
  let name ← expect .identifier
  let _ ← expect (.symbol ":")
  let underlying ← expect .identifier
  let entries ← metadata
  let constants ← values
  return ⟨name.text, underlying.text, entries, constants, name.pos⟩

/-- A union behind its keyword. -/
def union : Parser Union := do
  let name ← expect .identifier
  let entries ← metadata
  let members ← values
  return ⟨name.text, entries, members, name.pos⟩

/-- The type of a field: a name, in brackets for an array. -/
def fieldType : Parser (String × Bool) := do
  if ← eat "[" then
    let typeName ← dottedPath
    let _ ← expect (.symbol "]")
    return (typeName, true)
  else return (← dottedPath, false)

/-- The default of a field. -/
def fieldDefault : Parser (Option Literal) := do
  if ← eat "=" then return some (← literal)
  else return none

/-- A field up to its semicolon. -/
def field : Parser Field := do
  let name ← expect .identifier
  let _ ← expect (.symbol ":")
  let (typeName, isArray) ← fieldType
  let default ← fieldDefault
  let entries ← metadata
  let _ ← expect (.symbol ";")
  return ⟨name.text, typeName, isArray, default, entries, name.pos⟩

/-- A struct or a table behind its keyword. -/
def compound : Parser Compound := do
  let name ← expect .identifier
  let entries ← metadata
  let _ ← expect (.symbol "\x7b")
  let fields ← many do
    if ← eat "\x7d" then return none
    else
      let token ← current
      if token.isEnd then fail token (.unexpected token.text)
      else return some (← field)
  return ⟨name.text, entries, fields, name.pos⟩

/-- A string in quotes and the semicolon behind it. -/
def stringLine : Parser String := do
  let token ← expect .string
  let _ ← expect (.symbol ";")
  return (unquote? token.text).getD token.text

/-- A struct behind its keyword; a struct has a field. -/
def struct : Parser Compound := do
  let decl ← compound
  if decl.fields.isEmpty then fun _ => .error ⟨decl.pos, .emptyStruct decl.name⟩
  else return decl

/-- One top-level declaration. -/
def declaration : Parser Declaration := do
  if ← eat "include" then return .includeFile (← stringLine)
  else if ← eat "namespace" then
    let names ← path
    let _ ← expect (.symbol ";")
    return .inNamespace names
  else if ← eat "attribute" then
    let token ← expect .identifierOrString
    let _ ← expect (.symbol ";")
    return .attributeName ((unquote? token.text).getD token.text)
  else if ← eat "root_type" then
    let name ← dottedPath
    let _ ← expect (.symbol ";")
    return .rootType name
  else if ← eat "file_extension" then return .fileExtension (← stringLine)
  else if ← eat "file_identifier" then return .fileIdentifier (← stringLine)
  else if ← eat "enum" then return .enum (← enum)
  else if ← eat "union" then return .union (← union)
  else if ← eat "struct" then return .struct (← struct)
  else if ← eat "table" then return .table (← compound)
  else
    let token ← current
    fail token (.unexpected token.text)

/-- Declarations up to the end. -/
def schema : Parser Schema :=
  many do
    let token ← current
    if token.isEnd then return none
    else return some (← declaration)

end Parser

/-- The declarations of a token list. -/
def parse (tokens : List Token) : Except ParseError Schema :=
  (Parser.schema (Cursor.ofTokens tokens)).map (·.1)

end Source

end WireSchema
