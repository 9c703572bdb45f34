/-
WireSchema.Settings — what a run can be told.
-/
import WireSchema.Error

namespace WireSchema

/-- Settings of the compilation. -/
structure CompilerSettings where
  /-- The primitive that stores which member a union holds. -/
  unionDiscriminant : String := "ubyte"
  deriving DecidableEq

/-- Settings of the emitted code. -/
structure CodeSettings where
  /-- Whether emitted types can be serialized. -/
  deriveSerialize : Bool := false
  /-- Whether sizes, alignments and offsets are emitted as constants. -/
  emitLayoutConstants : Bool := true
  deriving DecidableEq

/-- All settings of a run. -/
structure Settings where
  compiler : CompilerSettings := {}
  code : CodeSettings := {}
  deriving DecidableEq

/-- Whether a primitive can store a union's discriminant: an unsigned integer of at most two bytes. -/
def Primitive.isDiscriminant (p : Primitive) : Bool :=
  p.isInteger && p.isUnsigned && p.size ≤ 2

/-- The primitive the settings name as discriminant. -/
def CompilerSettings.discriminant (settings : CompilerSettings) : Except Error Primitive :=
  match Primitive.ofName? settings.unionDiscriminant with
  | some p =>
    if p.isDiscriminant then .ok p else .error (.discriminant settings.unionDiscriminant)
  | none => .error (.discriminant settings.unionDiscriminant)

end WireSchema
