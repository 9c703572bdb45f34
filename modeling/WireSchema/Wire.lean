/-
WireSchema.Wire — sizes of the offsets on the wire, and the arithmetic on them.

A table instance starts with a signed offset to its vtable. The vtable is a run of small offsets: its
own length, the inline length of the table, then one entry per field index. Strings, vectors, tables
and union values are reached through an unsigned offset stored in the slot that refers to them.

Sizes and offsets are machine words. Their sums and products wrap around, and nothing reports it.
-/

namespace WireSchema.Wire

/-- Bytes of an offset to data stored elsewhere. -/
def uoffsetSize : Nat := 4

/-- Bytes of the offset from a table to its vtable. -/
def soffsetSize : Nat := 4

/-- Bytes of one vtable entry. -/
def voffsetSize : Nat := 2

/-- Bytes of the two entries that open a vtable. -/
def vtableHeaderSize : Nat := 2 * voffsetSize

/-- Bytes of a file identifier. -/
def fileIdentifierLength : Nat := 4

/-- How many numbers a machine word holds: two to the power of sixty-four. -/
def wordCount : Nat := 0x10000000000000000

/-- A number as a machine word. -/
def wrap (n : Nat) : Nat :=
  n % wordCount

/-- The least multiple of `alignment` that is not below `offset`, as a machine word; alignment zero
counts as one. -/
def alignUp (offset alignment : Nat) : Nat :=
  let step := max alignment 1
  wrap ((offset + step - 1) / step * step)

/-- Bytes of a vtable with an entry for each of `fieldCount` field indices. -/
def vtableSize (fieldCount : Nat) : Nat :=
  wrap (vtableHeaderSize + fieldCount * voffsetSize)

end WireSchema.Wire
