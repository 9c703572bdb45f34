/-
WireSchema.Proofs.Compiled.Leaves — the scalars of a value, through any number of structs.

A struct that is a field lies in its owner as a whole, so a scalar inside it has a place in the
outermost value: the sum of the offsets on the way (`Compiled.leaf?`). That place is aligned because
alignments are powers of two, the only ones that structs may force; of two powers of two the smaller
one divides the other, so whatever is placed is aligned with its owner (`Extent.AlignedIn`), and that
composes. Where the owner fits a word, it also ends within it (`Extent.Fits`). Where it does not, leaves
may meet: `Session.ladder_leaves_meet`.

Main statement: `Session.compile_leavesLaidOut`.
-/
import WireSchema.Proofs.Compiled.Tables

namespace WireSchema

open WireSchema.Outcome
open WireSchema.Resolved (Declaration)

/-! ## Extents inside extents -/

/-- An extent at an offset in another one, aligned as soon as the outer one is. -/
structure Extent.AlignedIn (e : Extent) (offset : Nat) (outer : Extent) : Prop where
  dvd_offset : e.alignment ∣ offset
  dvd_alignment : e.alignment ∣ outer.alignment

/-- An extent at an offset that ends within another one. -/
def Extent.Fits (e : Extent) (offset : Nat) (outer : Extent) : Prop :=
  offset + e.size ≤ outer.size

/-- Two extents at their offsets have no byte in common. -/
def Extent.Apart (e : Extent) (offset : Nat) (other : Extent) (place : Nat) : Prop :=
  offset + e.size ≤ place ∨ place + other.size ≤ offset

theorem Extent.AlignedIn.refl (e : Extent) : e.AlignedIn 0 e :=
  ⟨Nat.dvd_zero _, Nat.dvd_refl _⟩

theorem Extent.AlignedIn.trans {inner middle outer : Extent} {offset place : Nat}
    (h : inner.AlignedIn offset middle) (h' : middle.AlignedIn place outer) :
    inner.AlignedIn (place + offset) outer where
  dvd_offset := Nat.dvd_add (h.dvd_alignment.trans h'.dvd_offset) h.dvd_offset
  dvd_alignment := h.dvd_alignment.trans h'.dvd_alignment

theorem Extent.Fits.refl (e : Extent) : e.Fits 0 e :=
  (Nat.zero_add e.size).le

theorem Extent.Fits.trans {inner middle outer : Extent} {offset place : Nat}
    (h : inner.Fits offset middle) (h' : middle.Fits place outer) :
    inner.Fits (place + offset) outer := by
  unfold Fits at *
  omega

/-- What lies inside extents that are apart is apart. -/
theorem Extent.Apart.of_fits {e other outer outer' : Extent} {offset offset' place place' : Nat}
    (h : outer.Apart place outer' place') (he : e.Fits offset outer)
    (hother : other.Fits offset' outer') : e.Apart (place + offset) other (place' + offset') := by
  unfold Apart Fits at *
  omega

/-! ## The fields of a struct as slots -/

namespace Resolved

/-- The slots of a struct: one for the value of every field. -/
def valueSlots (inner : TypeName → Layout) (fields : List Field) : List Slot :=
  fields.zipIdx.map fun entry => ⟨entry.2, .value, entry.1.slot inner⟩

variable {inner : TypeName → Layout} {fields : List Field}

theorem map_extent_valueSlots :
    (valueSlots inner fields).map (·.extent) = fields.map (·.slot inner) := by
  have hfst : fields.zipIdx.map Prod.fst = fields := List.zipIdx_map_fst 0 fields
  rw [valueSlots, List.map_map]
  conv_rhs => rw [← hfst, List.map_map]
  rfl

theorem getElem?_valueSlots_eq_some_iff {i : Nat} {slot : Slot} :
    (valueSlots inner fields)[i]? = some slot ↔
      ∃ f, fields[i]? = some f ∧ ⟨i, .value, f.slot inner⟩ = slot := by
  simp [valueSlots, List.getElem?_zipIdx]

theorem mem_valueSlots_iff {slot : Slot} : slot ∈ valueSlots inner fields ↔
    ∃ (i : Nat) (f : Field), fields[i]? = some f ∧ ⟨i, .value, f.slot inner⟩ = slot := by
  simp [List.mem_iff_getElem?, getElem?_valueSlots_eq_some_iff]

theorem pairwise_valueSlots : (valueSlots inner fields).Pairwise Slot.Precedes := by
  rw [valueSlots, List.pairwise_map]
  exact (pairwise_zipIdx fields 0).imp fun hlt => .inl hlt

/-- A slot is at the place that has its index. -/
theorem mem_zip_valueSlots_iff {places : List Nat} {index offset : Nat} {f : Field}
    (hf : fields[index]? = some f) :
    (⟨index, .value, f.slot inner⟩, offset) ∈ (valueSlots inner fields).zip places ↔
      places[index]? = some offset := by
  simp only [List.mem_iff_getElem?, List.getElem?_zip_eq_some, getElem?_valueSlots_eq_some_iff]
  constructor
  · intro h
    obtain ⟨i, ⟨g, _, hsame⟩, hplace⟩ := h
    obtain ⟨rfl, _⟩ := Slot.mk.inj hsame
    exact hplace
  · intro h
    exact ⟨index, ⟨f, hf, rfl⟩, h⟩

end Resolved

/-! ## Fields and leaves -/

namespace Compiled

/-- Where a field starts in its owner. The layout of a struct keeps no offsets: its fields follow
each other from the start. -/
def offset? (compiled : Compiled) (entry : TypeEntry) (index : Nat) : Option Nat :=
  match entry.declaration with
  | .struct s => (Extent.offsetsFrom 0 (s.fields.map (·.slot compiled.layoutD)))[index]?
  | .table _ => entry.layout.fieldOffsets.bind fun offsets => offsets.lookup index
  | .enum _ | .union _ => none

/-- A field of a struct or a table by index, and where it starts. -/
def fieldAt? (compiled : Compiled) (owner : TypeName) (index : Nat) :
    Option (Resolved.Field × Nat) := do
  let entry ← compiled.get? owner
  let f ← entry.declaration.fields[index]?
  let offset ← compiled.offset? entry index
  return (f, offset)

/-- The primitive that a field holds in place, as it is or under an enum. -/
def scalar? (compiled : Compiled) (f : Resolved.Field) : Option Primitive :=
  if f.isArray then none
  else
    match f.type.kind with
    | .primitive p => some p
    | .enum =>
      match compiled.get? f.type.name with
      | some ⟨.enum e, _⟩ => some e.underlying
      | _ => none
    | _ => none

/-- The scalar at the end of a chain of field indices, and the sum of the offsets along the chain.
All fields but the last hold a struct in place. -/
def leaf? (compiled : Compiled) (owner : TypeName) : List Nat → Option (Nat × Primitive)
  | [] => none
  | [index] => do
    let (f, offset) ← compiled.fieldAt? owner index
    let p ← compiled.scalar? f
    return (offset, p)
  | index :: path => do
    let (f, offset) ← compiled.fieldAt? owner index
    if f.isArray || f.type.kind != .struct then none
    else
      let (inner, p) ← compiled.leaf? f.type.name path
      return (offset + inner, p)

/-- The leaves of values lie aligned, and the alignments of structs allow it; unless the size of a
value overflows, its leaves lie inside and apart. -/
structure LeavesLaidOut (compiled : Compiled) : Prop where
  placed : ∀ owner entry index f, compiled.get? owner = some entry →
    entry.declaration.fields[index]? = some f →
      (entry.declaration.kind = .table → f.isDeprecated = false) →
        ∃ offset, compiled.fieldAt? owner index = some (f, offset)
  aligned : ∀ owner entry path offset p, compiled.get? owner = some entry →
    compiled.leaf? owner path = some (offset, p) →
      ∀ base, entry.layout.alignment ∣ base → p.alignment ∣ base + offset
  inside : ∀ owner entry path offset p, compiled.get? owner = some entry →
    compiled.FitsWord entry.declaration → compiled.leaf? owner path = some (offset, p) →
      offset + p.size ≤ entry.layout.size
  disjoint : ∀ owner entry path path' offset offset' p p', compiled.get? owner = some entry →
    compiled.FitsWord entry.declaration → compiled.leaf? owner path = some (offset, p) →
      compiled.leaf? owner path' = some (offset', p') → path ≠ path' →
        offset + p.size ≤ offset' ∨ offset' + p'.size ≤ offset
  structs : ∀ name s layout, compiled.get? name = some ⟨.struct s, layout⟩ →
    layout.alignment.isPowerOfTwo ∧ layout.alignment ≤ 256 ∧ layout.alignment ∣ layout.size

variable {compiled : Compiled} {owner : TypeName}

theorem fieldAt?_eq_some_iff {index offset : Nat} {f : Resolved.Field} :
    compiled.fieldAt? owner index = some (f, offset) ↔ ∃ entry, compiled.get? owner = some entry ∧
      entry.declaration.fields[index]? = some f ∧ compiled.offset? entry index = some offset := by
  simp [fieldAt?, Option.bind_eq_some_iff]

/-- A leaf is a scalar field, or a leaf of the struct that a field holds. -/
theorem leaf?_eq_some_iff {path : List Nat} {offset : Nat} {p : Primitive} :
    compiled.leaf? owner path = some (offset, p) ↔ ∃ index rest f start,
      path = index :: rest ∧ compiled.fieldAt? owner index = some (f, start) ∧
        (rest = [] ∧ start = offset ∧ compiled.scalar? f = some p ∨
          f.isArray = false ∧ f.type.kind = .struct ∧ ∃ inner,
            compiled.leaf? f.type.name rest = some (inner, p) ∧ start + inner = offset) := by
  match path with
  | [] => simp [leaf?]
  | [index] => simp [leaf?, Option.bind_eq_some_iff]
  | index :: next :: path => simp [leaf?, Option.bind_eq_some_iff, and_assoc]

/-- Where slots start that follow each other from an offset on. -/
def places (start : Nat) (slots : List Slot) : List Nat :=
  Extent.offsetsFrom start (slots.map (·.extent))

/-- Slots in an entry from an offset on, among them the values of its fields at their offsets. -/
structure PlacedAs (compiled : Compiled) (entry : TypeEntry) (start : Nat) (slots : List Slot) :
    Prop where
  ordered : slots.Pairwise Slot.Precedes
  dvd_alignment : ∀ slot ∈ slots, slot.extent.alignment ∣ entry.layout.alignment
  mem_slots_iff : ∀ index f, entry.declaration.fields[index]? = some f →
    (⟨index, .value, f.slot compiled.layoutD⟩ ∈ slots ↔
      (entry.declaration.kind = .table → f.isDeprecated = false))
  offset?_iff : ∀ index f offset, entry.declaration.fields[index]? = some f →
    (compiled.offset? entry index = some offset ↔
      (⟨index, .value, f.slot compiled.layoutD⟩, offset) ∈ slots.zip (places start slots))
  placed : compiled.FitsWord entry.declaration → ∃ offsets finish,
    Placed start (slots.map (·.extent)) offsets finish ∧ finish ≤ entry.layout.size

theorem map_fst_zip_places (start : Nat) (slots : List Slot) :
    (slots.zip (places start slots)).map Prod.fst = slots :=
  List.map_fst_zip (by simp [places, Extent.length_offsetsFrom])

/-- Slots are aligned where they are placed. -/
theorem alignment_dvd_of_mem_places {start : Nat} {slots : List Slot}
    (hword : ∀ slot ∈ slots, slot.extent.alignment ∣ Wire.wordCount) {slot : Slot} {place : Nat}
    (hmem : (slot, place) ∈ slots.zip (places start slots)) : slot.extent.alignment ∣ place := by
  refine Extent.alignment_dvd_offsetsFrom (List.forall_mem_map.mpr hword) start
    (slot.extent, place) ?_
  rw [List.zip_map_left]
  exact List.mem_map.mpr ⟨_, hmem, rfl⟩

end Compiled

/-! ## Compiled sessions -/

namespace Session.Produces

variable {session : Session} {settings : CompilerSettings} {compiled : Compiled}
  {declarations : OrderedMap TypeName Declaration}
  (h : session.Produces settings declarations compiled)

include h

theorem isPowerOfTwo_slot {owner : TypeName} {entry : Compiled.TypeEntry}
    (hentry : compiled.get? owner = some entry) {f : Resolved.Field}
    (hf : f.isInline = true → f ∈ entry.declaration.inlineFields) :
    (f.slot compiled.layoutD).alignment.isPowerOfTwo := by
  refine Resolved.Field.slot_induction (P := fun e => e.alignment.isPowerOfTwo)
    (fun p => p.isProper.alignment) Extent.isProper_offset.alignment fun hinline => ?_
  obtain ⟨inner, hinner⟩ := h.exists_entry_of_inline hentry (hf hinline)
  rw [Compiled.layoutD_of_get? hinner]
  exact (h.isPowerOfTwo_alignment hinner).1

theorem placedAs_struct {owner : TypeName} {s : Resolved.Compound} {layout : Layout}
    (hentry : compiled.get? owner = some ⟨.struct s, layout⟩) :
    compiled.PlacedAs ⟨.struct s, layout⟩ 0 (Resolved.valueSlots compiled.layoutD s.fields) := by
  constructor
  case ordered => exact Resolved.pairwise_valueSlots
  case dvd_alignment =>
    intro slot hslot
    obtain ⟨i, f, hf, rfl⟩ := Resolved.mem_valueSlots_iff.mp hslot
    have hmem := List.mem_of_getElem? hf
    refine dvd_of_isPowerOfTwo_of_le (h.isPowerOfTwo_slot hentry fun hinline =>
      List.mem_filter.mpr ⟨hmem, hinline⟩) (h.isPowerOfTwo_alignment hentry).1 ?_
    show _ ≤ layout.alignment
    rw [h.layout_eq_ofStruct hentry]
    exact (Layout.isGreatest_alignment_ofStruct _ _).2
      (.inl (.inr ⟨_, List.mem_map.mpr ⟨f, hmem, rfl⟩, rfl⟩))
  case mem_slots_iff =>
    intro index f hf
    refine iff_of_true (Resolved.mem_valueSlots_iff.mpr ⟨index, f, hf, rfl⟩) ?_
    intro hkind
    cases hkind
  case offset?_iff =>
    intro index f offset hf
    have hf' : s.fields[index]? = some f := hf
    rw [Resolved.mem_zip_valueSlots_iff hf', Compiled.places, Resolved.map_extent_valueSlots]
    rfl
  case placed =>
    intro hfits
    obtain ⟨offsets, finish, hplaced, hsize⟩ := (h.isStructLayout hentry hfits).size
    rw [← Resolved.map_extent_valueSlots] at hplaced
    exact ⟨offsets, finish, hplaced, hsize.1.2⟩

theorem placedAs_table {owner : TypeName} {t : Resolved.Compound} {layout : Layout}
    (hentry : compiled.get? owner = some ⟨.table t, layout⟩) :
    compiled.PlacedAs ⟨.table t, layout⟩ 4
      (Resolved.liveSlots compiled.unionDiscriminant compiled.layoutD t.fields) := by
  have hlayout := h.layout_eq_ofTable hentry
  constructor
  case ordered => exact Resolved.pairwise_liveSlots _ _ _
  case dvd_alignment =>
    intro slot hslot
    refine dvd_of_isPowerOfTwo_of_le ?_ (h.isPowerOfTwo_alignment hentry).1 ?_
    · obtain ⟨i, f, hf, hlive, hmem⟩ := Resolved.mem_liveSlots_iff.mp hslot
      rcases Resolved.Field.mem_slots_iff.mp hmem with ⟨_, rfl⟩ | rfl
      · exact (f.isProper_tagSlot _).alignment
      · exact h.isPowerOfTwo_slot hentry
          (Resolved.mem_inlineFields_table (List.mem_of_getElem? hf) hlive)
    · show _ ≤ layout.alignment
      rw [hlayout]
      exact (Layout.isGreatest_alignment_ofTable (Resolved.tag_alignment_le h.isDiscriminant)).2
        (.inr ⟨slot, hslot, rfl⟩)
  case mem_slots_iff =>
    intro index f hf
    have hf' : t.fields[index]? = some f := hf
    rw [Resolved.mem_liveSlots_iff]
    constructor
    · rintro ⟨i, g, hg, hlive, hmem⟩ _
      obtain rfl : index = i := Resolved.Field.index_of_mem_slots hmem
      cases hf'.symm.trans hg
      exact hlive
    · intro hlive
      exact ⟨index, f, hf', hlive rfl, Resolved.Field.mem_slots_iff.mpr (.inr rfl)⟩
  case offset?_iff =>
    intro index f offset hf
    have hindexed : t.IsIndexed layout := h.isIndexed hentry rfl
    obtain ⟨offsets, hoffsets, hkeys, _⟩ := hindexed.fieldKeys
    have hfields : layout.fieldOffsets = some (roleOffsets .value _ (Compiled.places 4 _)) :=
      congrArg Layout.fieldOffsets hlayout
    have htags : layout.tagOffsets = roleOffsets .tag _ (Compiled.places 4 _) :=
      congrArg Layout.tagOffsets hlayout
    simp only [Compiled.offset?, hoffsets, Option.bind_some,
      OrderedMap.lookup_eq_some_iff (hkeys.imp Nat.ne_of_lt)]
    constructor
    · intro hmem
      exact (IsTableLayout.slotAt_iff hfields htags).mp (.value hf hoffsets hmem)
    · intro hzip
      cases hoffsets.symm.trans hfields
      exact mem_roleOffsets_iff.mpr ⟨_, hzip, rfl, rfl⟩
  case placed =>
    intro hfits
    obtain ⟨offsets, finish, hplaced, hsize, _⟩ := (h.isTableLayout hentry hfits).offsets
    exact ⟨offsets, finish, hplaced, hsize.1.2⟩

/-- The fields of an entry lie in its slots. -/
theorem exists_placedAs {owner : TypeName} {entry : Compiled.TypeEntry}
    (hentry : compiled.get? owner = some entry) {index : Nat} {f : Resolved.Field}
    (hf : entry.declaration.fields[index]? = some f) :
    ∃ start slots, compiled.PlacedAs entry start slots := by
  obtain ⟨declaration, layout⟩ := entry
  cases declaration with
  | enum e => cases hf
  | union u => cases hf
  | struct s => exact ⟨_, _, h.placedAs_struct hentry⟩
  | table t => exact ⟨_, _, h.placedAs_table hentry⟩

section Fields

variable {owner : TypeName} {entry : Compiled.TypeEntry} {index offset : Nat} {f : Resolved.Field}
  (hentry : compiled.get? owner = some entry)
  (hfield : compiled.fieldAt? owner index = some (f, offset))

include hentry hfield

/-- A field lies among the slots of its owner, wherever those begin. -/
theorem exists_slot_of_fieldAt? : ∃ start slots, compiled.PlacedAs entry start slots ∧
    entry.declaration.fields[index]? = some f ∧
    (⟨index, .value, f.slot compiled.layoutD⟩, offset) ∈
      slots.zip (Compiled.places start slots) := by
  obtain ⟨found, hfound, hf, hoffset⟩ := Compiled.fieldAt?_eq_some_iff.mp hfield
  obtain rfl := Option.some.inj (hentry.symm.trans hfound)
  obtain ⟨start, slots, hplaces⟩ := h.exists_placedAs hentry hf
  exact ⟨start, slots, hplaces, hf, (hplaces.offset?_iff index f offset hf).mp hoffset⟩

/-- A field is aligned with its owner. -/
theorem alignedIn_of_fieldAt? :
    (f.slot compiled.layoutD).AlignedIn offset entry.layout.extent := by
  obtain ⟨start, slots, hplaces, hf, hzip⟩ := h.exists_slot_of_fieldAt? hentry hfield
  have hword : ∀ slot ∈ slots, slot.extent.alignment ∣ Wire.wordCount := fun slot hslot =>
    (hplaces.dvd_alignment slot hslot).trans (h.alignment_dvd_wordCount hentry)
  exact ⟨Compiled.alignment_dvd_of_mem_places hword hzip,
    hplaces.dvd_alignment _ (List.of_mem_zip hzip).1⟩

/-- What a field holds in place is needed for the layout of its owner. -/
theorem mem_inlineFields_of_fieldAt? (hinline : f.isInline = true) :
    f ∈ entry.declaration.inlineFields := by
  obtain ⟨start, slots, hplaces, hf, hzip⟩ := h.exists_slot_of_fieldAt? hentry hfield
  have hlive := (hplaces.mem_slots_iff index f hf).mp (List.of_mem_zip hzip).1
  obtain ⟨declaration, layout⟩ := entry
  cases declaration with
  | enum e => cases hf
  | union u => cases hf
  | struct s => exact List.mem_filter.mpr ⟨List.mem_of_getElem? hf, hinline⟩
  | table t => exact Resolved.mem_inlineFields_table (List.mem_of_getElem? hf) (hlive rfl) hinline

end Fields

/-- Where an entry fits a word, its slots follow each other inside it. -/
theorem exists_placed {owner : TypeName} {entry : Compiled.TypeEntry}
    (hentry : compiled.get? owner = some entry) (hfits : compiled.FitsWord entry.declaration)
    {start : Nat} {slots : List Slot} (hplaces : compiled.PlacedAs entry start slots) :
    ∃ finish, Placed start (slots.map (·.extent)) (Compiled.places start slots) finish ∧
      finish ≤ entry.layout.size := by
  obtain ⟨offsets, finish, hplaced, hle⟩ := hplaces.placed hfits
  have hword : ∀ slot ∈ slots, slot.extent.alignment ∣ Wire.wordCount := fun slot hslot =>
    (hplaces.dvd_alignment slot hslot).trans (h.alignment_dvd_wordCount hentry)
  have hlt := (h.exactLayout_of_fitsWord hentry hfits).2
  rw [Compiled.places, hplaced.offsetsFrom_eq (List.forall_mem_map.mpr hword) (hle.trans_lt hlt)]
  exact ⟨finish, hplaced, hle⟩

section Owners

variable {owner : TypeName} {entry : Compiled.TypeEntry}
  (hentry : compiled.get? owner = some entry) (hfits : compiled.FitsWord entry.declaration)

include hentry hfits

/-- A field ends within its owner. -/
theorem fits_of_fieldAt? {index offset : Nat} {f : Resolved.Field}
    (hfield : compiled.fieldAt? owner index = some (f, offset)) :
    (f.slot compiled.layoutD).Fits offset entry.layout.extent := by
  obtain ⟨start, slots, hplaces, _, hzip⟩ := h.exists_slot_of_fieldAt? hentry hfield
  obtain ⟨finish, hplaced, hle⟩ := h.exists_placed hentry hfits hplaces
  exact (IsTableLayout.bounds hplaced hzip).2.2.trans hle

/-- What a field holds in place fits a word too. -/
theorem fitsWord_of_fieldAt? {index offset : Nat} {f : Resolved.Field}
    (hfield : compiled.fieldAt? owner index = some (f, offset)) (hinline : f.isInline = true)
    {inner : Compiled.TypeEntry} (hinner : compiled.get? f.type.name = some inner) :
    compiled.FitsWord inner.declaration := by
  obtain ⟨type, htype, hfitsType, _⟩ := h.exists_inner_of_fitsWord hfits
    (h.mem_inlineFields_of_fieldAt? hentry hfield hinline)
  obtain ⟨found, hfound, rfl⟩ := Option.map_eq_some_iff.mp htype
  cases hinner.symm.trans hfound
  exact hfitsType

/-- Two fields of one owner are apart. -/
theorem apart_of_fieldAt? {index index' offset offset' : Nat} {f f' : Resolved.Field}
    (hfield : compiled.fieldAt? owner index = some (f, offset))
    (hfield' : compiled.fieldAt? owner index' = some (f', offset')) (hne : index ≠ index') :
    (f.slot compiled.layoutD).Apart offset (f'.slot compiled.layoutD) offset' := by
  obtain ⟨start, slots, hplaces, _, hzip⟩ := h.exists_slot_of_fieldAt? hentry hfield
  obtain ⟨found, hfound, hf', hoffset'⟩ := Compiled.fieldAt?_eq_some_iff.mp hfield'
  obtain rfl := Option.some.inj (hentry.symm.trans hfound)
  obtain ⟨finish, hplaced, _⟩ := h.exists_placed hentry hfits hplaces
  rcases IsTableLayout.trichotomy hplaced hplaces.ordered hzip
    ((hplaces.offset?_iff index' f' offset' hf').mp hoffset') with heq | ⟨hbefore, _⟩ | ⟨hbehind, _⟩
  · exact absurd (congrArg (·.1.index) heq) hne
  · exact .inl hbefore
  · exact .inr hbehind

end Owners

theorem exists_fieldAt? {owner : TypeName} {entry : Compiled.TypeEntry}
    (hentry : compiled.get? owner = some entry) {index : Nat} {f : Resolved.Field}
    (hf : entry.declaration.fields[index]? = some f)
    (hlive : entry.declaration.kind = .table → f.isDeprecated = false) :
    ∃ offset, compiled.fieldAt? owner index = some (f, offset) := by
  obtain ⟨start, slots, hplaces⟩ := h.exists_placedAs hentry hf
  have hslot := (hplaces.mem_slots_iff index f hf).mpr hlive
  rw [← Compiled.map_fst_zip_places start slots] at hslot
  obtain ⟨⟨_, offset⟩, hzip, rfl⟩ := List.mem_map.mp hslot
  exact ⟨offset, Compiled.fieldAt?_eq_some_iff.mpr
    ⟨entry, hentry, hf, (hplaces.offset?_iff index f offset hf).mpr hzip⟩⟩

/-- The slot of a scalar is that of its primitive. -/
theorem slot_of_scalar? {f : Resolved.Field} {p : Primitive} (hp : compiled.scalar? f = some p) :
    f.slot compiled.layoutD = .ofPrimitive p := by
  unfold Compiled.scalar? at hp
  split at hp
  · cases hp
  rename_i harray
  split at hp
  · rename_i hkind
    cases hp
    simp [Resolved.Field.slot, harray, hkind]
  · rename_i hkind
    split at hp
    · rename_i e layout hentry
      cases hp
      have hd : compiled.declaration? f.type.name = some (.enum e) :=
        Option.map_eq_some_iff.mpr ⟨_, hentry, rfl⟩
      have hlayout := h.layoutD_of_size_lt hd (.enum e) (by cases e.underlying <;> decide)
      simp [Resolved.Field.slot, harray, hkind, hlayout, Layout.extent, Extent.ofPrimitive]
    · cases hp
  · cases hp

/-- A leaf is aligned with the slot of the field that its chain begins with, and where the owner fits a
word it ends within that slot. -/
theorem exists_slot_of_leaf? {path : List Nat} {owner : TypeName} {index offset : Nat}
    {p : Primitive} (hleaf : compiled.leaf? owner (index :: path) = some (offset, p)) :
    ∃ f start inner, compiled.fieldAt? owner index = some (f, start) ∧ start + inner = offset ∧
      (Extent.ofPrimitive p).AlignedIn inner (f.slot compiled.layoutD) ∧
      ∀ entry, compiled.get? owner = some entry → compiled.FitsWord entry.declaration →
        (Extent.ofPrimitive p).Fits inner (f.slot compiled.layoutD) := by
  induction path generalizing owner index offset with
  | nil =>
    obtain ⟨_, _, f, start, ⟨⟩, hfield, ⟨_, rfl, hp⟩ | ⟨_, _, inner, hinner, _⟩⟩ :=
      Compiled.leaf?_eq_some_iff.mp hleaf
    · rw [← h.slot_of_scalar? hp]
      exact ⟨f, start, 0, hfield, rfl, .refl _, fun _ _ _ => .refl _⟩
    · simp [Compiled.leaf?] at hinner
  | cons next rest ih =>
    obtain ⟨_, _, f, start, ⟨⟩, hfield, ⟨hnil, _⟩ | ⟨harray, hkind, inner, hinner, rfl⟩⟩ :=
      Compiled.leaf?_eq_some_iff.mp hleaf
    · cases hnil
    obtain ⟨g, place, within, hnext, rfl, haligned, hfits⟩ := ih hinner
    obtain ⟨target, htarget, _⟩ := Compiled.fieldAt?_eq_some_iff.mp hnext
    have hslot : f.slot compiled.layoutD = target.layout.extent := by
      simp [Resolved.Field.slot, harray, hkind, Compiled.layoutD_of_get? htarget]
    have hinline : f.isInline = true := by simp [Resolved.Field.isInline, harray, hkind]
    refine ⟨f, start, place + within, hfield, rfl, ?_, fun entry hentry hfitsEntry => ?_⟩
    · rw [hslot]
      exact haligned.trans (h.alignedIn_of_fieldAt? htarget hnext)
    · have hfitsTarget := h.fitsWord_of_fieldAt? hentry hfitsEntry hfield hinline htarget
      rw [hslot]
      exact (hfits target htarget hfitsTarget).trans (h.fits_of_fieldAt? htarget hfitsTarget hnext)

/-- A leaf is aligned with its owner. -/
theorem alignedIn_of_leaf? {owner : TypeName} {entry : Compiled.TypeEntry}
    (hentry : compiled.get? owner = some entry) {path : List Nat} {offset : Nat} {p : Primitive}
    (hleaf : compiled.leaf? owner path = some (offset, p)) :
    (Extent.ofPrimitive p).AlignedIn offset entry.layout.extent := by
  cases path with
  | nil => simp [Compiled.leaf?] at hleaf
  | cons index rest =>
    obtain ⟨f, start, inner, hfield, rfl, haligned, _⟩ := h.exists_slot_of_leaf? hleaf
    exact haligned.trans (h.alignedIn_of_fieldAt? hentry hfield)

section Owners

variable {owner : TypeName} {entry : Compiled.TypeEntry}
  (hentry : compiled.get? owner = some entry) (hfits : compiled.FitsWord entry.declaration)

include hentry hfits

/-- A leaf ends within its owner. -/
theorem fits_of_leaf? {path : List Nat} {offset : Nat} {p : Primitive}
    (hleaf : compiled.leaf? owner path = some (offset, p)) :
    (Extent.ofPrimitive p).Fits offset entry.layout.extent := by
  cases path with
  | nil => simp [Compiled.leaf?] at hleaf
  | cons index rest =>
    obtain ⟨f, start, inner, hfield, rfl, _, hwithin⟩ := h.exists_slot_of_leaf? hleaf
    exact (hwithin entry hentry hfits).trans (h.fits_of_fieldAt? hentry hfits hfield)

/-- Two leaves of one owner are apart: their chains part at some field. -/
theorem apart_of_leaf? {path path' : List Nat} {offset offset' : Nat} {p p' : Primitive}
    (hleaf : compiled.leaf? owner path = some (offset, p))
    (hleaf' : compiled.leaf? owner path' = some (offset', p')) (hne : path ≠ path') :
    (Extent.ofPrimitive p).Apart offset (.ofPrimitive p') offset' := by
  induction path generalizing owner entry path' offset offset' with
  | nil => simp [Compiled.leaf?] at hleaf
  | cons index rest ih =>
    cases path' with
    | nil => simp [Compiled.leaf?] at hleaf'
    | cons index' rest' =>
      by_cases hindex : index = index'
      · subst hindex
        obtain ⟨_, _, f, start, ⟨⟩, hfield, hchain⟩ := Compiled.leaf?_eq_some_iff.mp hleaf
        obtain ⟨_, _, f', start', ⟨⟩, hfield', hchain'⟩ := Compiled.leaf?_eq_some_iff.mp hleaf'
        cases hfield.symm.trans hfield'
        rcases hchain with ⟨rfl, _, hp⟩ | ⟨harray, hkind, inner, hinner, rfl⟩
        · rcases hchain' with ⟨rfl, _⟩ | ⟨harray, hkind, _⟩
          · exact absurd rfl hne
          · simp [Compiled.scalar?, harray, hkind] at hp
        · rcases hchain' with ⟨_, _, hp⟩ | ⟨_, _, inner', hinner', rfl⟩
          · simp [Compiled.scalar?, harray, hkind] at hp
          · have hinline : f.isInline = true := by simp [Resolved.Field.isInline, harray, hkind]
            obtain ⟨target, htarget⟩ := h.exists_entry_of_inline hentry
              (h.mem_inlineFields_of_fieldAt? hentry hfield hinline)
            have happart := ih htarget
              (h.fitsWord_of_fieldAt? hentry hfits hfield hinline htarget) hinner hinner'
              fun hrest => hne (hrest ▸ rfl)
            unfold Extent.Apart at happart ⊢
            omega
      · obtain ⟨f, start, inner, hfield, rfl, _, hwithin⟩ := h.exists_slot_of_leaf? hleaf
        obtain ⟨f', start', inner', hfield', rfl, _, hwithin'⟩ := h.exists_slot_of_leaf? hleaf'
        exact (h.apart_of_fieldAt? hentry hfits hfield hfield' hindex).of_fits
          (hwithin entry hentry hfits) (hwithin' entry hentry hfits)

end Owners

end Session.Produces

namespace Session

/-- **Leaves.** In every compiled session, a scalar or an enum that is reached from a struct or a
table through fields that hold structs in place is aligned as soon as the outermost value is. Unless
the size of that value overflows, the scalar lies inside it and shares no byte with any other. Structs
are aligned to a power of two, at most 256, and are a multiple of it long. Every field of a struct and
every field of a table that is in use has its place. -/
theorem compile_leavesLaidOut {session : Session} {settings : CompilerSettings}
    {compiled : Compiled} (hcompile : session.compile settings = .ok compiled) :
    compiled.LeavesLaidOut := by
  obtain ⟨declarations, h⟩ := produces_of_compile hcompile
  constructor
  case placed =>
    intro owner entry index f hentry hf hlive
    exact h.exists_fieldAt? hentry hf hlive
  case aligned =>
    intro owner entry path offset p hentry hleaf base hbase
    have haligned := h.alignedIn_of_leaf? hentry hleaf
    exact Nat.dvd_add (haligned.dvd_alignment.trans hbase) haligned.dvd_offset
  case inside =>
    intro owner entry path offset p hentry hfits hleaf
    exact h.fits_of_leaf? hentry hfits hleaf
  case disjoint =>
    intro owner entry path path' offset offset' p p' hentry hfits hleaf hleaf' hne
    exact h.apart_of_leaf? hentry hfits hleaf hleaf' hne
  case structs =>
    intro name s layout hentry
    obtain ⟨hpower, hle⟩ := h.isPowerOfTwo_alignment hentry
    exact ⟨hpower, hle, h.alignment_dvd_size hentry⟩

/-- A struct in a forced one in a table, behind a field that is no longer in use. -/
def keelTexts : List (String × String) :=
  [("keel", "enum Hue: ushort { Red } struct Bolt { mark: ubyte; torque: short; }
      struct Plate (force_align: 32) { mark: ubyte; bolt: Bolt; hue: Hue; }
      table Keel { old: int (deprecated); plate: Plate; depth: double; }")]

def keelSession : Session :=
  ((registerTexts {} keelTexts).toOption).getD {}

theorem keel_leavesLaidOut : ∃ compiled, keelSession.compile {} = .ok compiled ∧
    compiled.leaf? ⟨[], "Keel"⟩ [1, 1, 1] = some (36, .short) ∧
    compiled.leaf? ⟨[], "Keel"⟩ [1, 2] = some (38, .ushort) ∧ compiled.LeavesLaidOut ∧
    ∀ name entry, compiled.get? name = some entry → compiled.FitsWord entry.declaration := by
  have hcompiles : ((keelSession.compile {}).toOption.map fun compiled =>
      (compiled.leaf? ⟨[], "Keel"⟩ [1, 1, 1], compiled.leaf? ⟨[], "Keel"⟩ [1, 2],
        decide compiled.HasRoom)) = some (some (36, .short), some (38, .ushort), true) := by
    decide +kernel
  obtain ⟨compiled, hcompiled, hleaves⟩ := Option.map_eq_some_iff.mp hcompiles
  simp only [Prod.mk.injEq, decide_eq_true_eq] at hleaves
  obtain ⟨htorque, hhue, hroom⟩ := hleaves
  have hcompile := eq_ok_of_toOption hcompiled
  exact ⟨compiled, hcompile, htorque, hhue, compile_leavesLaidOut hcompile,
    fun _ _ hentry => fitsWord_of_compile hcompile hroom hentry⟩

/-- A table whose first field holds the last rung of the ladder. -/
def ladderTable : Symbol.Compound :=
  ⟨"Roof", ⟨1, 1⟩, [plainField "top" "c", plainField "flag" "ubyte"], []⟩

/-- The last rung takes no room in the table, so its first scalar and the next field are one byte. -/
theorem ladder_leaves_meet : ∃ compiled, (ladderSession [ladderTable]).compile {} = .ok compiled ∧
    compiled.leaf? ⟨[], "Roof"⟩ (List.replicate 30 0) = some (256, .ubyte) ∧
    compiled.leaf? ⟨[], "Roof"⟩ [1] = some (256, .ubyte) := by
  have hcompiles : (((ladderSession [ladderTable]).compile {}).toOption.map fun compiled =>
      (compiled.leaf? ⟨[], "Roof"⟩ (List.replicate 30 0), compiled.leaf? ⟨[], "Roof"⟩ [1])) =
        some (some (256, .ubyte), some (256, .ubyte)) := by
    decide +kernel
  obtain ⟨compiled, hcompiled, hleaves⟩ := Option.map_eq_some_iff.mp hcompiles
  exact ⟨compiled, eq_ok_of_toOption hcompiled, Prod.mk.inj hleaves⟩

end Session

end WireSchema
