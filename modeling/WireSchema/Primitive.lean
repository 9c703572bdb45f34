/-
WireSchema.Primitive — the primitive types a schema may name.

* `Primitive` — one constructor per spelling; two spellings of one width are two primitives.
* `Primitive.ofName?` — the primitive with a given spelling.
* `Primitive.size`, `Primitive.alignment` — bytes of an inline slot; a string's slot is an offset.
* `Primitive.integerRange?` — the least and the greatest value of an integer primitive.
-/
import WireSchema.Wire

namespace WireSchema

/-- The coarse class of a primitive: which literals and which declarations it may take part in. -/
inductive TypeClass where
  | bool
  | char
  | int
  | float
  | string
  deriving DecidableEq

/-- Every primitive type a schema may name. -/
inductive Primitive where
  | bool
  | byte
  | ubyte
  | short
  | ushort
  | int
  | uint
  | float
  | long
  | ulong
  | double
  | int8
  | uint8
  | int16
  | uint16
  | int32
  | uint32
  | int64
  | uint64
  | float32
  | float64
  | string
  deriving DecidableEq

namespace Primitive

/-- Every primitive, each once. -/
def catalog : List Primitive :=
  [.bool, .byte, .ubyte, .short, .ushort, .int, .uint, .float, .long, .ulong, .double,
   .int8, .uint8, .int16, .uint16, .int32, .uint32, .int64, .uint64, .float32, .float64, .string]

/-- The spelling in a schema. -/
def name : Primitive → String
  | bool => "bool"
  | byte => "byte"
  | ubyte => "ubyte"
  | short => "short"
  | ushort => "ushort"
  | int => "int"
  | uint => "uint"
  | float => "float"
  | long => "long"
  | ulong => "ulong"
  | double => "double"
  | int8 => "int8"
  | uint8 => "uint8"
  | int16 => "int16"
  | uint16 => "uint16"
  | int32 => "int32"
  | uint32 => "uint32"
  | int64 => "int64"
  | uint64 => "uint64"
  | float32 => "float32"
  | float64 => "float64"
  | string => "string"

/-- The primitive with exactly this spelling. -/
def ofName? (spelling : String) : Option Primitive :=
  catalog.find? fun p => p.name == spelling

/-- The type that holds a value of this primitive in emitted code. -/
def nativeName : Primitive → String
  | bool => "bool"
  | byte | int8 => "i8"
  | ubyte | uint8 => "u8"
  | short | int16 => "i16"
  | ushort | uint16 => "u16"
  | int | int32 => "i32"
  | uint | uint32 => "u32"
  | long | int64 => "i64"
  | ulong | uint64 => "u64"
  | float | float32 => "f32"
  | double | float64 => "f64"
  | string => "String"

/-- The class of a primitive; the one-byte integers without a width in their name are characters. -/
def typeClass : Primitive → TypeClass
  | bool => .bool
  | byte | ubyte => .char
  | float | double | float32 | float64 => .float
  | string => .string
  | short | ushort | int | uint | long | ulong
  | int8 | uint8 | int16 | uint16 | int32 | uint32 | int64 | uint64 => .int

/-- Bytes of the inline slot. A string is stored elsewhere, so its slot is an offset. -/
def size : Primitive → Nat
  | bool | byte | ubyte | int8 | uint8 => 1
  | short | ushort | int16 | uint16 => 2
  | int | uint | float | int32 | uint32 | float32 => 4
  | long | ulong | double | int64 | uint64 | float64 => 8
  | string => Wire.uoffsetSize

/-- Slots are naturally aligned. -/
def alignment (p : Primitive) : Nat :=
  p.size

/-- Whether the value itself is stored inline. -/
def isScalar (p : Primitive) : Bool :=
  p != string

/-- Whether the values are integers. -/
def isInteger (p : Primitive) : Bool :=
  match p.typeClass with
  | .int | .char => true
  | .bool | .float | .string => false

/-- Whether the values are the integers from zero up. -/
def isUnsigned : Primitive → Bool
  | ubyte | ushort | uint | ulong | uint8 | uint16 | uint32 | uint64 => true
  | bool | byte | short | int | float | long | double
  | int8 | int16 | int32 | int64 | float32 | float64 | string => false

/-- The least and the greatest value of an integer primitive. -/
def integerRange? (p : Primitive) : Option (Int × Int) :=
  if !p.isInteger then none
  else if p.isUnsigned then some (0, Nat.pow 2 (8 * p.size) - 1)
  else some (-Nat.pow 2 (8 * p.size - 1), Nat.pow 2 (8 * p.size - 1) - 1)

end Primitive

end WireSchema
