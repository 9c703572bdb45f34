/-
WireSchema.Text.LetterCase — large and small forms of whole texts.

Every character is mapped on its own, except the letter sigma: at the end of a word its small form
is the final one.
-/
import WireSchema.Text.Cased
import WireSchema.Text.Lowercase
import WireSchema.Text.Uppercase

namespace WireSchema.Text

/-- A text in large letters. -/
def toUppercase (cs : List Char) : List Char :=
  cs.flatMap uppercase

/-- Whether a cased letter follows, other marks passed over. -/
def casedFollows (cs : List Char) : Bool :=
  match cs.dropWhile isCaseIgnorable with
  | c :: _ => isCased c
  | [] => false

/-- The small form of sigma between two texts, the first one reversed. -/
def lowercaseSigma (before after : List Char) : Char :=
  if casedFollows before && !casedFollows after then 'ς' else 'σ'

/-- A text in small letters, after a text given in reverse. -/
def toLowercaseAfter (before : List Char) : List Char → List Char
  | [] => []
  | c :: cs =>
    (if c == 'Σ' then [lowercaseSigma before cs] else lowercase c) ++
      toLowercaseAfter (c :: before) cs

/-- A text in small letters. -/
def toLowercase (cs : List Char) : List Char :=
  toLowercaseAfter [] cs

end WireSchema.Text
