/-
WireSchema.Settings.Outline — JSON text, read as far as settings look into it.

Flags and texts keep their content, lists and records their parts; numbers and null are only checked
for their form. A text is kept as units: the two halves of a character written as a pair of codes are
joined only where the text is looked at, so a half that stands alone is refused there and nowhere
else.

* `Outline.read?` — the outline of a whole text.
* `unitsText?` — the text that units spell.
-/

namespace WireSchema.Settings

/-! ## Texts -/

/-- A unit of a quoted text: a character, or a code of sixteen bits. -/
inductive TextUnit where
  | char (c : Char)
  | code (n : Nat)
  deriving DecidableEq

/-- The value of a hexadecimal digit. -/
def hexDigit? (c : Char) : Option Nat :=
  if '0' ≤ c && c ≤ '9' then some (c.toNat - '0'.toNat)
  else if 'a' ≤ c && c ≤ 'f' then some (c.toNat - 'a'.toNat + 10)
  else if 'A' ≤ c && c ≤ 'F' then some (c.toNat - 'A'.toNat + 10)
  else none

/-- The number that four hexadecimal digits write. -/
def hexCode? (a b c d : Char) : Option Nat := do
  return (((← hexDigit? a) * 16 + (← hexDigit? b)) * 16 + (← hexDigit? c)) * 16 + (← hexDigit? d)

/-- The character that a backslash and a letter stand for. -/
def shortEscape? : Char → Option Char
  | '"' => some '"'
  | '\\' => some '\\'
  | '/' => some '/'
  | 'b' => some '\x08'
  | 'f' => some '\x0c'
  | 'n' => some '\n'
  | 'r' => some '\r'
  | 't' => some '\t'
  | _ => none

/-- The units up to the closing quote, and what follows it. -/
def quoted? : List Char → Option (List TextUnit × List Char)
  | [] => none
  | '"' :: rest => some ([], rest)
  | '\\' :: 'u' :: a :: b :: c :: d :: rest => do
    let code ← hexCode? a b c d
    let (units, rest) ← quoted? rest
    return (.code code :: units, rest)
  | '\\' :: c :: rest => do
    let escaped ← shortEscape? c
    let (units, rest) ← quoted? rest
    return (.char escaped :: units, rest)
  | c :: rest => do
    if c < ' ' || c == '\\' then none
    let (units, rest) ← quoted? rest
    return (.char c :: units, rest)

/-- Whether a code is the first half of a pair. -/
def isHighHalf (n : Nat) : Bool :=
  0xD800 ≤ n && n ≤ 0xDBFF

/-- Whether a code is the second half of a pair. -/
def isLowHalf (n : Nat) : Bool :=
  0xDC00 ≤ n && n ≤ 0xDFFF

/-- The character of a pair of halves. -/
def joinHalves (high low : Nat) : Char :=
  Char.ofNat (0x10000 + (high - 0xD800) * 0x400 + (low - 0xDC00))

/-- The characters that units spell; none if a half stands alone. -/
def unitsChars? : List TextUnit → Option (List Char)
  | [] => some []
  | .char c :: rest => (unitsChars? rest).map (c :: ·)
  | .code n :: rest =>
    if isLowHalf n then none
    else if isHighHalf n then
      match rest with
      | .code m :: rest =>
        if isLowHalf m then (unitsChars? rest).map (joinHalves n m :: ·) else none
      | _ => none
    else (unitsChars? rest).map (Char.ofNat n :: ·)

/-- The text that units spell. -/
def unitsText? (units : List TextUnit) : Option String :=
  (unitsChars? units).map String.ofList

/-! ## Numbers -/

/-- What follows one or more digits. -/
def afterDigits? (cs : List Char) : Option (List Char) :=
  if cs.head?.any Char.isDigit then some (cs.dropWhile Char.isDigit) else none

/-- What follows an integer without needless zeros. -/
def afterInteger? : List Char → Option (List Char)
  | '0' :: rest => if rest.head?.any Char.isDigit then none else some rest
  | cs => afterDigits? cs

/-- What follows a fraction, if there is one. -/
def afterFraction? : List Char → Option (List Char)
  | '.' :: rest => afterDigits? rest
  | cs => some cs

/-- What follows an exponent, if there is one. -/
def afterExponent? : List Char → Option (List Char)
  | c :: rest =>
    if c == 'e' || c == 'E' then
      match rest with
      | '+' :: rest => afterDigits? rest
      | '-' :: rest => afterDigits? rest
      | rest => afterDigits? rest
    else some (c :: rest)
  | [] => some []

/-- What follows a number. -/
def afterNumber? (cs : List Char) : Option (List Char) := do
  let unsigned :=
    match cs with
    | '-' :: rest => rest
    | cs => cs
  afterExponent? (← afterFraction? (← afterInteger? unsigned))

/-! ## Outlines -/

/-- What settings see of a JSON value. -/
inductive Outline where
  | flag (value : Bool)
  | text (units : List TextUnit)
  | list (items : List Outline)
  | record (members : List (List TextUnit × Outline))
  /-- A number or null. -/
  | other

namespace Outline

/-- Whether a character may stand between tokens. -/
def isBlank (c : Char) : Bool :=
  c == ' ' || c == '\t' || c == '\n' || c == '\r'

/-- What follows blanks. -/
def skipBlanks (cs : List Char) : List Char :=
  cs.dropWhile isBlank

/-- What follows a character after blanks. -/
def after? (c : Char) (cs : List Char) : Option (List Char) :=
  match skipBlanks cs with
  | first :: rest => if first == c then some rest else none
  | [] => none

mutual

/-- A value and what follows it, in at most as many steps as there is fuel. -/
def value? : Nat → List Char → Option (Outline × List Char)
  | 0, _ => none
  | fuel + 1, cs =>
    match skipBlanks cs with
    | 't' :: 'r' :: 'u' :: 'e' :: rest => some (flag true, rest)
    | 'f' :: 'a' :: 'l' :: 's' :: 'e' :: rest => some (flag false, rest)
    | 'n' :: 'u' :: 'l' :: 'l' :: rest => some (other, rest)
    | '"' :: rest => (quoted? rest).map fun (units, rest) => (text units, rest)
    | '[' :: rest =>
      match after? ']' rest with
      | some rest => some (list [], rest)
      | none => (items? fuel rest).map fun (items, rest) => (list items, rest)
    | '\x7b' :: rest =>
      match after? '\x7d' rest with
      | some rest => some (record [], rest)
      | none => (members? fuel rest).map fun (members, rest) => (record members, rest)
    | cs => (afterNumber? cs).map fun rest => (other, rest)

/-- One or more items up to the closing bracket. -/
def items? : Nat → List Char → Option (List Outline × List Char)
  | 0, _ => none
  | fuel + 1, cs => do
    let (item, rest) ← value? fuel cs
    match after? ',' rest with
    | some rest =>
      let (items, rest) ← items? fuel rest
      return (item :: items, rest)
    | none => return ([item], ← after? ']' rest)

/-- One or more members up to the closing brace. -/
def members? : Nat → List Char → Option (List (List TextUnit × Outline) × List Char)
  | 0, _ => none
  | fuel + 1, cs => do
    let (key, rest) ← quoted? (← after? '"' cs)
    let (value, rest) ← value? fuel (← after? ':' rest)
    match after? ',' rest with
    | some rest =>
      let (members, rest) ← members? fuel rest
      return ((key, value) :: members, rest)
    | none => return ([(key, value)], ← after? '\x7d' rest)

end

/-- The outline of a text that holds one value and blanks. A nested value costs two steps and has two
brackets, a further item costs one step and has a comma, so the text's length is fuel enough. -/
def read? (text : String) : Option Outline := do
  let (outline, rest) ← value? (text.length + 1) text.toList
  if (skipBlanks rest).isEmpty then some outline else none

end Outline

end WireSchema.Settings
