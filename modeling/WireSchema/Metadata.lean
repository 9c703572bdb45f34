/-
WireSchema.Metadata — recognised metadata of declarations and fields.

Entries with a meaning of their own become constructors; the other reserved names are kept with their
value and have no effect, and every name that is not reserved must be declared as an attribute.
-/
import WireSchema.Literal

namespace WireSchema

/-- A recognised metadata entry. -/
inductive Metadata where
  | deprecated
  | required
  | key
  | forceAlign (bytes : Nat)
  /-- A reserved name without effect. -/
  | builtin (name : String) (value : Option Literal)
  /-- An attribute that the schema has to declare. -/
  | user (name : String) (value : Option Literal)
  deriving DecidableEq

namespace Metadata

/-- The name an entry was written with. -/
def name : Metadata → String
  | deprecated => "deprecated"
  | required => "required"
  | key => "key"
  | forceAlign _ => "force_align"
  | builtin name _ => name
  | user name _ => name

/-- The reserved attribute names. -/
def reservedNames : List String :=
  ["id", "deprecated", "required", "force_align", "bit_flags", "nested_flatbuffer", "flexbuffer",
   "key", "hash", "original_order"]

/-- The start of a family of reserved attribute names. -/
def reservedFamily : String := "native_"

/-- Whether a name is not free for attribute declarations. -/
def isReserved (name : String) : Bool :=
  reservedNames.contains name || reservedFamily.toList.isPrefixOf name.toList

/-- The greatest alignment an entry can carry, the last number of sixty-four bits. -/
def maxForceAlign : Int := 18446744073709551615

end Metadata

end WireSchema
