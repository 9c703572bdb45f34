/-
WireSchema.Layout — where the bytes of a type are.

* `Extent` — size and alignment of one slot; `offsetsFrom` places slots one after the other, each at
  the first aligned offset.
* `Layout.ofStruct`, `Layout.ofTable` — layouts from the extents of the slots.
* `LayoutCache.resolve` — the layout of a declaration; inline enums and structs must be laid out
  before.
-/
import WireSchema.Resolved

namespace WireSchema

open WireSchema.Resolved (Declaration)

/-- The size and the alignment of a slot. -/
structure Extent where
  size : Nat
  alignment : Nat
  deriving DecidableEq

namespace Extent

/-- The slot of a primitive. -/
def ofPrimitive (p : Primitive) : Extent :=
  ⟨p.size, p.alignment⟩

/-- The slot of an offset to data stored elsewhere. -/
def offset : Extent :=
  ⟨Wire.uoffsetSize, Wire.uoffsetSize⟩

/-- Where a slot ends that starts at the first aligned offset. -/
def endAt (start : Nat) (e : Extent) : Nat :=
  Wire.wrap (Wire.alignUp start e.alignment + e.size)

/-- Where slots start that follow each other from an offset on. -/
def offsetsFrom (start : Nat) : List Extent → List Nat
  | [] => []
  | e :: rest => Wire.alignUp start e.alignment :: offsetsFrom (e.endAt start) rest

/-- Where the last of such slots ends. -/
def endFrom (start : Nat) : List Extent → Nat
  | [] => start
  | e :: rest => endFrom (e.endAt start) rest

/-- The greatest alignment, at least `least`. -/
def maxAlignment (least : Nat) (extents : List Extent) : Nat :=
  extents.foldl (fun alignment e => max alignment e.alignment) least

end Extent

/-- The layout of a type. -/
structure Layout where
  alignment : Nat
  size : Nat
  /-- Tables only: where the slot of a field index starts. -/
  fieldOffsets : Option (List (Nat × Nat))
  /-- Tables only: where the discriminant slot of a union field starts. -/
  tagOffsets : List (Nat × Nat)
  deriving DecidableEq

/-- What a table slot holds: a field's value, or the discriminant of a union field. -/
inductive SlotRole where
  | value
  | tag
  deriving DecidableEq

/-- A slot of a table. -/
structure Slot where
  index : Nat
  role : SlotRole
  extent : Extent
  deriving DecidableEq

namespace Layout

/-- A layout without slots. -/
def plain (e : Extent) : Layout :=
  ⟨e.alignment, e.size, none, []⟩

/-- The extent of a value with this layout. -/
def extent (l : Layout) : Extent :=
  ⟨l.size, l.alignment⟩

/-- Fields in order, padded to the greatest alignment; a struct may force a greater one. -/
def ofStruct (fields : List Extent) (forced : Option Nat) : Layout :=
  let alignment := max (Extent.maxAlignment 1 fields) (forced.getD 1)
  plain ⟨Wire.alignUp (Extent.endFrom 0 fields) alignment, alignment⟩

/-- The offsets of the slots with a role, by field index. -/
def offsetsOf (role : SlotRole) (slots : List Slot) : List (Nat × Nat) :=
  let offsets := Extent.offsetsFrom Wire.soffsetSize (slots.map (·.extent))
  ((slots.zip offsets).filter fun entry => entry.1.role == role).map fun (slot, offset) =>
    (slot.index, offset)

/-- Slots in order behind the offset to the vtable, padded to the greatest alignment of a value. -/
def ofTable (slots : List Slot) : Layout :=
  let values := (slots.filter fun slot => slot.role == .value).map (·.extent)
  let alignment := Extent.maxAlignment Wire.soffsetSize values
  { alignment
    size := Wire.alignUp (Extent.endFrom Wire.soffsetSize (slots.map (·.extent))) alignment
    fieldOffsets := some (offsetsOf .value slots)
    tagOffsets := offsetsOf .tag slots }

end Layout

/-- The layouts computed so far, under a discriminant. -/
structure LayoutCache where
  discriminant : Primitive
  layouts : OrderedMap TypeName Layout := {}
  deriving DecidableEq

namespace LayoutCache

/-- The slot of a field's value in its owner. -/
def valueExtent (cache : LayoutCache) (owner : TypeName) (f : Resolved.Field) :
    Except InternalFault Extent :=
  if f.isArray then .ok .offset
  else
    match f.type.kind with
    | .primitive p => .ok (.ofPrimitive p)
    | .enum | .struct =>
      match cache.layouts.get? f.type.name with
      | some layout => .ok layout.extent
      | none => .error (.layoutNotReady f.name owner f.type.name)
    | .union | .table => .ok .offset

/-- The discriminant slot of a union field. -/
def tagExtent (cache : LayoutCache) (f : Resolved.Field) : Extent :=
  if f.isArray then .offset else .ofPrimitive cache.discriminant

/-- The slots of one table field: none if it is deprecated, a tag first if it is a union. -/
def fieldSlots (cache : LayoutCache) (owner : TypeName) (index : Nat) (f : Resolved.Field) :
    Except InternalFault (List Slot) :=
  if f.isDeprecated then .ok []
  else do
    let value : Slot := ⟨index, .value, ← cache.valueExtent owner f⟩
    if f.type.kind == .union then return [⟨index, .tag, cache.tagExtent f⟩, value]
    else return [value]

/-- The slots of the fields from an index on. -/
def tableSlots (cache : LayoutCache) (owner : TypeName) (index : Nat) :
    List Resolved.Field → Except InternalFault (List Slot)
  | [] => .ok []
  | f :: rest => do
    let slots ← cache.fieldSlots owner index f
    return slots ++ (← tableSlots cache owner (index + 1) rest)

/-- The layout of a declaration, from the layouts computed so far. -/
def layoutOf (cache : LayoutCache) : Declaration → Except InternalFault Layout
  | .enum e => .ok (.plain (.ofPrimitive e.underlying))
  | .union _ => .ok (.plain (.ofPrimitive cache.discriminant))
  | .struct s => do
    return .ofStruct (← s.fields.mapM (cache.valueExtent s.name)) s.forceAlign
  | .table t => do return .ofTable (← cache.tableSlots t.name 0 t.fields)

/-- The layout of a declaration: the one computed before, or a new one that is kept. -/
def resolve (d : Declaration) : EStateM InternalFault LayoutCache Layout := do
  unless (← get).layouts.contains d.name do
    let layout ← ofExcept ((← get).layoutOf d)
    modify fun cache => { cache with layouts := cache.layouts.insert d.name layout }
  match (← get).layouts.get? d.name with
  | some layout => return layout
  | none => throw (.notCached d.name)

/-- Lays out declarations in an order. -/
def resolveAll (declarations : OrderedMap TypeName Declaration) :
    List TypeName → EStateM InternalFault LayoutCache Unit
  | [] => return
  | name :: rest =>
    match declarations.get? name with
    | none => throw (.neverDeclared name)
    | some d => do
      let _ ← resolve d
      resolveAll declarations rest

end LayoutCache

/-- The layouts of declarations, computed in an order. -/
def layouts (declarations : OrderedMap TypeName Declaration) (order : List TypeName)
    (discriminant : Primitive) : Except Error (OrderedMap TypeName Layout) :=
  match (LayoutCache.resolveAll declarations order).run ⟨discriminant, {}⟩ with
  | .ok () cache => .ok cache.layouts
  | .error fault _ => .error (.internal fault)

end WireSchema
