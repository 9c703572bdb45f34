/-
WireSchema.Code.StringLiteral — string literals of emitted code.

Quotes, backslashes and line breaks get a backslash; a character without a visible form of its own is
written by its code.
-/
import WireSchema.Text.Printable

namespace WireSchema.Code

/-- A character by its code. -/
def codeEscape (c : Char) : List Char :=
  ['\\', 'u', '\x7b'] ++ Nat.toDigits 16 c.toNat ++ ['\x7d']

/-- One character of a string literal. -/
def literalChar (c : Char) : List Char :=
  match c with
  | '\x00' => ['\\', '0']
  | '\t' => ['\\', 't']
  | '\r' => ['\\', 'r']
  | '\n' => ['\\', 'n']
  | '\\' => ['\\', '\\']
  | '"' => ['\\', '"']
  | c => if Text.isCombining c || !Text.isVisible c then codeEscape c else [c]

/-- A text as a string literal. -/
def stringLiteral (text : String) : String :=
  String.ofList ('"' :: text.toList.flatMap literalChar ++ ['"'])

end WireSchema.Code
