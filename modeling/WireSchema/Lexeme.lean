/-
WireSchema.Lexeme — the pieces a schema text is cut into.

`lexeme? before cs` recognises the piece at the front of `cs`, where `before` is the character in
front of it. A number or an identifier must end where a word ends, and an identifier must also start
where one starts; the word characters of every script count. A number that runs into a word is cut
back to its whole part if a point follows that part.
-/
import WireSchema.Text.Blank
import WireSchema.Text.DecimalDigit
import WireSchema.Text.Word

namespace WireSchema

open WireSchema.Text (isBlank isDecimalDigit isWord)

/-- What a piece of text is. -/
inductive LexemeKind where
  | number
  | string
  | symbol
  | identifier
  | comment
  | blank
  deriving DecidableEq

/-- Whether a piece separates tokens instead of being one. -/
def LexemeKind.isTrivia : LexemeKind → Bool
  | comment | blank => true
  | number | string | symbol | identifier => false

/-- A piece at the front of a text: its kind and how many characters it takes. -/
structure Lexeme where
  kind : LexemeKind
  length : Nat
  deriving DecidableEq

namespace Lexeme

/-- How many characters from the front satisfy `p`. -/
def run (p : Char → Bool) (cs : List Char) : Nat :=
  (cs.takeWhile p).length

/-- Whether no word continues at the front of a text. -/
def wordEnds : List Char → Bool
  | [] => true
  | c :: _ => !isWord c

/-- The length of a minus sign. -/
def signLength : List Char → Nat
  | '-' :: _ => 1
  | _ => 0

/-- The length of a point with digits after it. -/
def fractionLength : List Char → Nat
  | '.' :: cs => if run isDecimalDigit cs == 0 then 0 else 1 + run isDecimalDigit cs
  | _ => 0

/-- The length of an exponent mark and an optional sign. -/
def exponentMarkLength : List Char → Nat
  | 'e' :: '+' :: _ | 'e' :: '-' :: _ | 'E' :: '+' :: _ | 'E' :: '-' :: _ => 2
  | 'e' :: _ | 'E' :: _ => 1
  | _ => 0

/-- The length of an exponent: a mark, an optional sign, digits. -/
def exponentLength (cs : List Char) : Nat :=
  let mark := exponentMarkLength cs
  let digits := run isDecimalDigit (cs.drop mark)
  if mark == 0 || digits == 0 then 0 else mark + digits

/-- The length of the whole part of a numeral: a sign and digits, zero without a digit. -/
def wholeLength (cs : List Char) : Nat :=
  let sign := signLength cs
  let digits := run isDecimalDigit (cs.drop sign)
  if digits == 0 then 0 else sign + digits

/-- The length of the longest numeral at the front. -/
def numeralLength (cs : List Char) : Nat :=
  let whole := wholeLength cs
  if whole == 0 then 0
  else
    let fraction := fractionLength (cs.drop whole)
    whole + fraction + exponentLength (cs.drop (whole + fraction))

/-- A number: the longest numeral, or its whole part, that ends where a word ends. -/
def number? (cs : List Char) : Option Lexeme :=
  let whole := wholeLength cs
  if whole == 0 then none
  else ([numeralLength cs, whole].find? fun n => wordEnds (cs.drop n)).map fun n => ⟨.number, n⟩

/-- A string: double quotes around anything but quotes and newlines. -/
def string? : List Char → Option Lexeme
  | '"' :: cs =>
    let body := run (fun c => c != '"' && c != '\n') cs
    if (cs.drop body).head? == some '"' then some ⟨.string, body + 2⟩ else none
  | _ => none

/-- The characters that are tokens on their own. -/
def symbols : List Char :=
  ['=', ';', ':', ',', '.', '\x7b', '\x7d', '(', ')', '[', ']']

/-- A symbol: one character. -/
def symbol? : List Char → Option Lexeme
  | c :: _ => if symbols.contains c then some ⟨.symbol, 1⟩ else none
  | [] => none

/-- Whether a character may start an identifier: identifiers are ASCII. -/
def isIdentifierStart (c : Char) : Bool :=
  c.isAlpha || c == '_'

/-- Whether a character may continue an identifier. -/
def isIdentifierPart (c : Char) : Bool :=
  c.isAlphanum || c == '_'

/-- An identifier: a whole word, ASCII throughout. -/
def identifier? (before : Option Char) : List Char → Option Lexeme
  | c :: cs =>
    let length := 1 + run isIdentifierPart cs
    if isIdentifierStart c && !before.any isWord && wordEnds ((c :: cs).drop length) then
      some ⟨.identifier, length⟩
    else none
  | [] => none

/-- How many characters end a block comment, its closing mark included. -/
def blockLength? : List Char → Option Nat
  | '*' :: '/' :: _ => some 2
  | _ :: cs => (blockLength? cs).map (· + 1)
  | [] => none

/-- A comment: to the end of the line, or between the block marks. -/
def comment? : List Char → Option Lexeme
  | '/' :: '/' :: cs => some ⟨.comment, 2 + run (· != '\n') cs⟩
  | '/' :: '*' :: cs => (blockLength? cs).map fun n => ⟨.comment, 2 + n⟩
  | _ => none

/-- A run of white space. -/
def blank? (cs : List Char) : Option Lexeme :=
  if run isBlank cs == 0 then none else some ⟨.blank, run isBlank cs⟩

end Lexeme

/-- The piece at the front of `cs`, where `before` is the character in front of it. -/
def lexeme? (before : Option Char) (cs : List Char) : Option Lexeme :=
  (Lexeme.number? cs).or <| (Lexeme.string? cs).or <| (Lexeme.symbol? cs).or <|
    (Lexeme.identifier? before cs).or <| (Lexeme.comment? cs).or (Lexeme.blank? cs)

/-! ## Pieces are not empty -/

namespace Lexeme

theorem number?_pos {cs : List Char} {l : Lexeme} (h : number? cs = some l) : 0 < l.length := by
  unfold number? at h
  by_cases hw : wholeLength cs = 0
  · simp [hw] at h
  · simp only [beq_iff_eq, hw, if_false, Option.map_eq_some_iff] at h
    obtain ⟨n, hn, rfl⟩ := h
    have hmem := List.mem_of_find?_eq_some hn
    have hnum : numeralLength cs ≠ 0 := by
      unfold numeralLength
      simp only [beq_iff_eq, hw, if_false]
      omega
    simp only [List.mem_cons, List.not_mem_nil, or_false] at hmem
    rcases hmem with rfl | rfl
    · exact Nat.pos_of_ne_zero hnum
    · exact Nat.pos_of_ne_zero hw

theorem string?_pos {cs : List Char} {l : Lexeme} (h : string? cs = some l) : 0 < l.length := by
  unfold string? at h
  split at h
  · simp only [Option.ite_none_right_eq_some, Option.some.injEq] at h
    obtain ⟨_, rfl⟩ := h
    simp
  · simp at h

theorem symbol?_pos {cs : List Char} {l : Lexeme} (h : symbol? cs = some l) : 0 < l.length := by
  unfold symbol? at h
  split at h
  · simp only [Option.ite_none_right_eq_some, Option.some.injEq] at h
    obtain ⟨_, rfl⟩ := h
    simp
  · simp at h

theorem identifier?_pos {before : Option Char} {cs : List Char} {l : Lexeme}
    (h : identifier? before cs = some l) : 0 < l.length := by
  unfold identifier? at h
  split at h
  · simp only [Option.ite_none_right_eq_some, Option.some.injEq] at h
    obtain ⟨_, rfl⟩ := h
    dsimp only
    omega
  · simp at h

theorem comment?_pos {cs : List Char} {l : Lexeme} (h : comment? cs = some l) : 0 < l.length := by
  unfold comment? at h
  split at h
  · simp only [Option.some.injEq] at h
    subst h
    dsimp only
    omega
  · simp only [Option.map_eq_some_iff] at h
    obtain ⟨n, _, rfl⟩ := h
    dsimp only
    omega
  · simp at h

theorem blank?_pos {cs : List Char} {l : Lexeme} (h : blank? cs = some l) : 0 < l.length := by
  unfold blank? at h
  split at h
  · simp at h
  · rename_i hne
    simp only [Option.some.injEq] at h
    subst h
    simp only [beq_iff_eq] at hne
    exact Nat.pos_of_ne_zero hne

end Lexeme

/-- A piece takes at least one character. -/
theorem lexeme?_pos {before : Option Char} {cs : List Char} {l : Lexeme}
    (h : lexeme? before cs = some l) : 0 < l.length := by
  simp only [lexeme?, Option.or_eq_some_iff] at h
  rcases h with h | ⟨_, h | ⟨_, h | ⟨_, h | ⟨_, h | ⟨_, h⟩⟩⟩⟩⟩
  · exact Lexeme.number?_pos h
  · exact Lexeme.string?_pos h
  · exact Lexeme.symbol?_pos h
  · exact Lexeme.identifier?_pos h
  · exact Lexeme.comment?_pos h
  · exact Lexeme.blank?_pos h

end WireSchema
