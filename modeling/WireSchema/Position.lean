/-
WireSchema.Position — places in a schema text.

Lines and columns count from one. A column counts the bytes of the UTF-8 form since the last newline.
-/

namespace WireSchema

/-- A line and a column. -/
structure Position where
  line : Nat
  column : Nat
  deriving DecidableEq

namespace Position

/-- Where a text starts. -/
def start : Position := ⟨1, 1⟩

/-- The place after a character. -/
def next (pos : Position) (c : Char) : Position :=
  if c == '\n' then ⟨pos.line + 1, 1⟩ else ⟨pos.line, pos.column + c.utf8Size⟩

/-- The place after a run of characters. -/
def advance (pos : Position) (cs : List Char) : Position :=
  cs.foldl next pos

end Position

end WireSchema
