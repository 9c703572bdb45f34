/-
WireSchema.Proofs.Layout.Reference — the layout a declaration has, whatever was computed before.

`ReferenceLayout` gives every declaration its layout by the rules alone, without a cache and in numbers
that never wrap: slots follow each other at the first aligned offset, a nested enum or struct takes its
own reference layout, and a table skips deprecated fields and puts a tag slot in front of a union's
value. It is inductive, so a struct that holds itself has none. `ReferenceLayout.unique`: nothing has
two.
-/
import Mathlib.Data.List.Basic
import Mathlib.Order.Bounds.Basic
import Mathlib.Order.MinMax
import WireSchema.Layout

namespace WireSchema

open WireSchema.Resolved (Declaration)

/-! ## Placement -/

/-- The least multiple of an alignment that is not below a start. -/
def IsFirstAligned (alignment start offset : Nat) : Prop :=
  IsLeast {o | alignment ∣ o ∧ start ≤ o} offset

/-- Slots placed from a start on, each at the first aligned offset behind the one before, with their
offsets and the end of the last. -/
inductive Placed : Nat → List Extent → List Nat → Nat → Prop
  | nil (start : Nat) : Placed start [] [] start
  | cons {start finish offset : Nat} {offsets : List Nat} {e : Extent} {rest : List Extent}
      (hoffset : IsFirstAligned e.alignment start offset)
      (hrest : Placed (offset + e.size) rest offsets finish) :
      Placed start (e :: rest) (offset :: offsets) finish

/-- The layout of a struct over the extents of its fields: its alignment is the greatest of one, the
fields' and the forced one, and its size is rounded up to it. -/
structure IsStructLayout (fields : List Extent) (forced : Option Nat) (layout : Layout) : Prop where
  alignment : IsGreatest ({1} ∪ {a | ∃ e ∈ fields, e.alignment = a} ∪ {a | forced = some a})
    layout.alignment
  size : ∃ offsets finish, Placed 0 fields offsets finish ∧
    IsFirstAligned layout.alignment finish layout.size
  fieldOffsets : layout.fieldOffsets = none
  tagOffsets : layout.tagOffsets = []

/-- The offsets of the slots with a role, by field index. -/
def roleOffsets (role : SlotRole) (slots : List Slot) (offsets : List Nat) : List (Nat × Nat) :=
  ((slots.zip offsets).filter fun entry => entry.1.role == role).map fun entry =>
    (entry.1.index, entry.2)

/-- The layout of a table over its slots, which follow the four bytes of the offset to its vtable. -/
structure IsTableLayout (slots : List Slot) (layout : Layout) : Prop where
  alignment : IsGreatest ({4} ∪ {a | ∃ slot ∈ slots, slot.extent.alignment = a}) layout.alignment
  offsets : ∃ offsets finish, Placed 4 (slots.map (·.extent)) offsets finish ∧
    IsFirstAligned layout.alignment finish layout.size ∧
    layout.fieldOffsets = some (roleOffsets .value slots offsets) ∧
    layout.tagOffsets = roleOffsets .tag slots offsets

/-! ## Slots of fields -/

namespace Resolved

/-- Whether a field holds an enum or a struct in place. -/
def Field.isInline (f : Field) : Bool :=
  !f.isArray && (f.type.kind == .enum || f.type.kind == .struct)

/-- The fields whose slots take the layout of another declaration. -/
def Declaration.inlineFields : Declaration → List Field
  | .enum _ | .union _ => []
  | .struct s => s.fields.filter Field.isInline
  | .table t => t.fields.filter fun f => !f.isDeprecated && f.isInline

theorem mem_inlineFields_table {t : Compound} {f : Field} (hf : f ∈ t.fields)
    (hlive : f.isDeprecated = false) (hinline : f.isInline = true) :
    f ∈ (Declaration.table t).inlineFields :=
  List.mem_filter.mpr ⟨hf, by simp [hlive, hinline]⟩

/-- The slot of a field's value, where `inner` gives the layouts of the types held in place. -/
def Field.slot (inner : TypeName → Layout) (f : Field) : Extent :=
  if f.isArray then .offset
  else
    match f.type.kind with
    | .primitive p => .ofPrimitive p
    | .enum | .struct => (inner f.type.name).extent
    | .union | .table => .offset

/-- The discriminant slot of a union field. -/
def Field.tagSlot (discriminant : Primitive) (f : Field) : Extent :=
  if f.isArray then .offset else .ofPrimitive discriminant

/-- The slots of one table field. -/
def Field.slots (discriminant : Primitive) (inner : TypeName → Layout) (f : Field) (index : Nat) :
    List Slot :=
  (if f.type.kind = .union then [⟨index, .tag, f.tagSlot discriminant⟩] else []) ++
    [⟨index, .value, f.slot inner⟩]

/-- The slots of a table's fields that are in use, under their indices. -/
def liveSlots (discriminant : Primitive) (inner : TypeName → Layout) (fields : List Field) :
    List Slot :=
  (fields.zipIdx.filter fun entry => !entry.1.isDeprecated).flatMap fun entry =>
    entry.1.slots discriminant inner entry.2

variable {discriminant : Primitive} {inner : TypeName → Layout} {slot : Slot}

theorem Field.mem_slots_iff {f : Field} {index : Nat} :
    slot ∈ f.slots discriminant inner index ↔
      (f.type.kind = .union ∧ slot = ⟨index, .tag, f.tagSlot discriminant⟩) ∨
        slot = ⟨index, .value, f.slot inner⟩ := by
  unfold slots
  split <;> simp [*]

/-- Slots belong to the fields in use. -/
theorem mem_liveSlots_iff {fields : List Field} :
    slot ∈ liveSlots discriminant inner fields ↔ ∃ (index : Nat) (f : Field),
      fields[index]? = some f ∧ f.isDeprecated = false ∧
        slot ∈ f.slots discriminant inner index := by
  simp only [liveSlots, List.mem_flatMap, List.mem_filter, List.mem_zipIdx_iff_getElem?,
    Bool.not_eq_true', Prod.exists]
  constructor
  · intro h
    obtain ⟨f, index, ⟨hf, hlive⟩, hslot⟩ := h
    exact ⟨index, f, hf, hlive, hslot⟩
  · intro h
    obtain ⟨index, f, hf, hlive, hslot⟩ := h
    exact ⟨f, index, ⟨hf, hlive⟩, hslot⟩

end Resolved

/-! ## Reference layouts -/

/-- The layout of a declaration under a discriminant, where `declared` finds declarations by name.
`inner` and `type` give, for the names of the types held in place, their layouts and declarations. -/
inductive ReferenceLayout (declared : TypeName → Option Declaration) (discriminant : Primitive) : Declaration → Layout → Prop
  | enum (e : Resolved.Enum) :
      ReferenceLayout declared discriminant (.enum e)
        ⟨e.underlying.alignment, e.underlying.size, none, []⟩
  | union (u : Resolved.Union) :
      ReferenceLayout declared discriminant (.union u)
        ⟨discriminant.alignment, discriminant.size, none, []⟩
  | struct {s : Resolved.Compound} {layout : Layout} (inner : TypeName → Layout)
      (type : TypeName → Declaration)
      (htype : ∀ f ∈ (Declaration.struct s).inlineFields,
        declared f.type.name = some (type f.type.name))
      (hinner : ∀ f ∈ (Declaration.struct s).inlineFields,
        ReferenceLayout declared discriminant (type f.type.name) (inner f.type.name))
      (hlayout : IsStructLayout (s.fields.map (·.slot inner)) s.forceAlign layout) :
      ReferenceLayout declared discriminant (.struct s) layout
  | table {t : Resolved.Compound} {layout : Layout} (inner : TypeName → Layout)
      (type : TypeName → Declaration)
      (htype : ∀ f ∈ (Declaration.table t).inlineFields,
        declared f.type.name = some (type f.type.name))
      (hinner : ∀ f ∈ (Declaration.table t).inlineFields,
        ReferenceLayout declared discriminant (type f.type.name) (inner f.type.name))
      (hlayout : IsTableLayout (Resolved.liveSlots discriminant inner t.fields) layout) :
      ReferenceLayout declared discriminant (.table t) layout

/-! ## Uniqueness -/

theorem Placed.unique {start : Nat} {extents : List Extent} {offsets offsets' : List Nat}
    {finish finish' : Nat} (h : Placed start extents offsets finish)
    (h' : Placed start extents offsets' finish') : offsets = offsets' ∧ finish = finish' := by
  induction h generalizing offsets' finish' with
  | nil start =>
    cases h' with
    | nil => exact ⟨rfl, rfl⟩
  | cons hoffset _ ih =>
    cases h' with
    | cons hoffset' hrest' =>
      obtain rfl := hoffset.unique hoffset'
      obtain ⟨rfl, rfl⟩ := ih hrest'
      exact ⟨rfl, rfl⟩

theorem IsStructLayout.unique {fields : List Extent} {forced : Option Nat} {layout other : Layout}
    (h : IsStructLayout fields forced layout) (h' : IsStructLayout fields forced other) :
    other = layout := by
  obtain ⟨_, finish, hplaced, hsize⟩ := h.size
  obtain ⟨_, finish', hplaced', hsize'⟩ := h'.size
  obtain ⟨_, rfl⟩ := hplaced.unique hplaced'
  have halign := h'.alignment.unique h.alignment
  rw [halign] at hsize'
  have hbytes := hsize'.unique hsize
  have hfields := h'.fieldOffsets.trans h.fieldOffsets.symm
  have htags := h'.tagOffsets.trans h.tagOffsets.symm
  cases layout; cases other
  simp_all

theorem IsTableLayout.unique {slots : List Slot} {layout other : Layout}
    (h : IsTableLayout slots layout) (h' : IsTableLayout slots other) : other = layout := by
  obtain ⟨_, finish, hplaced, hsize, hfields, htags⟩ := h.offsets
  obtain ⟨_, finish', hplaced', hsize', hfields', htags'⟩ := h'.offsets
  obtain ⟨rfl, rfl⟩ := hplaced.unique hplaced'
  have halign := h'.alignment.unique h.alignment
  rw [halign] at hsize'
  have hbytes := hsize'.unique hsize
  cases layout; cases other
  simp_all

/-- A slot is that of a primitive, that of an offset, or the whole of a type held in place. -/
theorem Resolved.Field.slot_induction {P : Extent → Prop} {f : Resolved.Field}
    {inner : TypeName → Layout} (hprimitive : ∀ p, P (.ofPrimitive p)) (hoffset : P .offset)
    (hinner : f.isInline = true → P (inner f.type.name).extent) : P (f.slot inner) := by
  unfold slot
  split
  · exact hoffset
  rename_i harray
  split
  · exact hprimitive _
  · rename_i hkind
    exact hinner (by simp [isInline, harray, hkind])
  · rename_i hkind
    exact hinner (by simp [isInline, harray, hkind])
  · exact hoffset
  · exact hoffset

/-- A slot depends on the layouts of types held in place only. -/
theorem Resolved.Field.slot_congr {f : Resolved.Field} {inner inner' : TypeName → Layout}
    (h : f.isInline = true → inner f.type.name = inner' f.type.name) :
    f.slot inner = f.slot inner' := by
  unfold slot
  split
  · rfl
  · rename_i harray
    split
    · rfl
    · rename_i hkind
      rw [h (by simp [isInline, harray, hkind])]
    · rename_i hkind
      rw [h (by simp [isInline, harray, hkind])]
    · rfl
    · rfl

theorem Resolved.liveSlots_congr {discriminant : Primitive} {fields : List Resolved.Field}
    {inner inner' : TypeName → Layout}
    (h : ∀ f ∈ fields, f.isDeprecated = false → f.isInline = true →
      inner f.type.name = inner' f.type.name) :
    liveSlots discriminant inner fields = liveSlots discriminant inner' fields := by
  refine List.flatMap_congr fun entry hentry => ?_
  obtain ⟨hmem, hlive⟩ := List.mem_filter.mp hentry
  have hfield : entry.1 ∈ fields := List.fst_mem_of_mem_zipIdx hmem
  rw [Field.slots, Field.slots, Field.slot_congr (h _ hfield (by simpa using hlive))]

theorem Resolved.map_slot_congr {s : Resolved.Compound} {inner inner' : TypeName → Layout}
    (h : ∀ f ∈ (Declaration.struct s).inlineFields, inner f.type.name = inner' f.type.name) :
    s.fields.map (·.slot inner) = s.fields.map (·.slot inner') :=
  List.map_congr_left fun f hf => Field.slot_congr fun hinline =>
    h f (List.mem_filter.mpr ⟨hf, hinline⟩)

theorem Resolved.liveSlots_congr_inline {discriminant : Primitive} {t : Resolved.Compound}
    {inner inner' : TypeName → Layout}
    (h : ∀ f ∈ (Declaration.table t).inlineFields, inner f.type.name = inner' f.type.name) :
    liveSlots discriminant inner t.fields = liveSlots discriminant inner' t.fields :=
  liveSlots_congr fun f hf hlive hinline => h f (mem_inlineFields_table hf hlive hinline)

/-- A declaration has one reference layout at most. -/
theorem ReferenceLayout.unique {declared : TypeName → Option Declaration}
    {discriminant : Primitive} {d : Declaration} {layout other : Layout}
    (h : ReferenceLayout declared discriminant d layout)
    (h' : ReferenceLayout declared discriminant d other) : other = layout := by
  induction h generalizing other with
  | enum e => cases h'; rfl
  | union u => cases h'; rfl
  | @struct s layout inner type htype _ hlayout ih =>
    cases h' with
    | struct inner' type' htype' hinner' hlayout' =>
      have hsame : ∀ f ∈ (Declaration.struct s).inlineFields,
          inner' f.type.name = inner f.type.name := by
        intro f hf
        have hdecl := Option.some.inj ((htype' f hf).symm.trans (htype f hf))
        exact ih f hf (hdecl ▸ hinner' f hf)
      rw [Resolved.map_slot_congr hsame] at hlayout'
      exact hlayout.unique hlayout'
  | @table t layout inner type htype _ hlayout ih =>
    cases h' with
    | table inner' type' htype' hinner' hlayout' =>
      have hsame : ∀ f ∈ (Declaration.table t).inlineFields,
          inner' f.type.name = inner f.type.name := by
        intro f hf
        have hdecl := Option.some.inj ((htype' f hf).symm.trans (htype f hf))
        exact ih f hf (hdecl ▸ hinner' f hf)
      rw [Resolved.liveSlots_congr_inline hsame] at hlayout'
      exact hlayout.unique hlayout'

/-! ## Existence -/

/-- Rounding up reaches the first multiple. -/
theorem isFirstAligned_roundUp (start : Nat) {alignment : Nat} (h : 0 < alignment) :
    IsFirstAligned alignment start ((start + alignment - 1) / alignment * alignment) := by
  have hdiv := Nat.div_add_mod' (start + alignment - 1) alignment
  have hmod := Nat.mod_lt (start + alignment - 1) h
  refine ⟨⟨Nat.dvd_mul_left .., by omega⟩, ?_⟩
  rintro bound ⟨⟨count, rfl⟩, hstart⟩
  rw [Nat.mul_comm alignment count]
  apply Nat.mul_le_mul_right
  rw [← Nat.lt_add_one_iff, Nat.div_lt_iff_lt_mul h, Nat.add_mul, Nat.one_mul,
    Nat.mul_comm count alignment]
  omega

theorem exists_placed {extents : List Extent} (h : ∀ e ∈ extents, 0 < e.alignment)
    (start : Nat) : ∃ offsets finish, Placed start extents offsets finish := by
  induction extents generalizing start with
  | nil => exact ⟨_, _, .nil start⟩
  | cons e rest ih =>
    rw [List.forall_mem_cons] at h
    have hfirst := isFirstAligned_roundUp start h.1
    obtain ⟨offsets, finish, hrest⟩ := ih h.2 _
    exact ⟨_, _, .cons hfirst hrest⟩

namespace Extent

theorem isGreatest_maxAlignment (least : Nat) (extents : List Extent) :
    IsGreatest ({least} ∪ {a | ∃ e ∈ extents, e.alignment = a}) (maxAlignment least extents) := by
  induction extents generalizing least with
  | nil => simp [maxAlignment]
  | cons e rest ih =>
    obtain ⟨hmem, hupper⟩ := ih (max least e.alignment)
    have hmax : max least e.alignment ≤ maxAlignment least (e :: rest) := hupper (by simp)
    constructor
    · rcases hmem with hleast | ⟨e', he', halign⟩
      · rcases max_choice least e.alignment with hchoice | hchoice
        · exact .inl (hleast.trans hchoice)
        · exact .inr ⟨e, List.mem_cons_self, (hleast.trans hchoice).symm⟩
      · exact .inr ⟨e', List.mem_cons_of_mem _ he', halign⟩
    · rintro a (rfl | ⟨e', he', rfl⟩)
      · exact le_trans (le_max_left _ _) hmax
      · rcases List.mem_cons.mp he' with rfl | he'
        · exact le_trans (le_max_right _ _) hmax
        · exact hupper (.inr ⟨e', he', rfl⟩)

end Extent

namespace Layout

/-- The alignment that is computed for a struct is that of its layout. -/
theorem isGreatest_alignment_ofStruct (fields : List Extent) (forced : Option Nat) :
    IsGreatest ({1} ∪ {a | ∃ e ∈ fields, e.alignment = a} ∪ {a | forced = some a})
      (ofStruct fields forced).alignment := by
  obtain ⟨hmem, hupper⟩ := Extent.isGreatest_maxAlignment 1 fields
  have hone : 1 ≤ Extent.maxAlignment 1 fields := hupper (by simp)
  simp only [ofStruct, plain]
  cases forced with
  | none =>
    rw [Option.getD_none, max_eq_left hone]
    exact ⟨.inl hmem, by rintro a (ha | ha); exacts [hupper ha, by cases ha]⟩
  | some bytes =>
    rw [Option.getD_some]
    constructor
    · rcases max_choice (Extent.maxAlignment 1 fields) bytes with hchoice | hchoice
      · rw [hchoice]; exact .inl hmem
      · rw [hchoice]; exact .inr rfl
    · rintro a (ha | ha)
      · exact le_trans (hupper ha) (le_max_left _ _)
      · obtain rfl := Option.some.inj ha
        exact le_max_right _ _

/-- The alignment that is computed for a table is that of its layout, as long as no tag is aligned to
more than an offset. -/
theorem isGreatest_alignment_ofTable {slots : List Slot}
    (htag : ∀ slot ∈ slots, slot.role = .tag → slot.extent.alignment ≤ 4) :
    IsGreatest ({4} ∪ {a | ∃ slot ∈ slots, slot.extent.alignment = a})
      (ofTable slots).alignment := by
  obtain ⟨hmem, hupper⟩ := Extent.isGreatest_maxAlignment Wire.soffsetSize
    ((slots.filter fun slot => slot.role == .value).map (·.extent))
  have hfour : 4 ≤ (ofTable slots).alignment := hupper (by simp [Wire.soffsetSize])
  constructor
  · rcases hmem with hleast | ⟨e, he, halign⟩
    · exact .inl hleast
    · obtain ⟨slot, hslot, rfl⟩ := List.mem_map.mp he
      exact .inr ⟨slot, (List.mem_filter.mp hslot).1, halign⟩
  · rintro a (rfl | ⟨slot, hslot, rfl⟩)
    · exact hfour
    · cases hrole : slot.role with
      | tag => exact le_trans (htag slot hslot hrole) hfour
      | value =>
        exact hupper (.inr ⟨slot.extent, List.mem_map.mpr
          ⟨slot, List.mem_filter.mpr ⟨hslot, by simp [hrole]⟩, rfl⟩, rfl⟩)

end Layout

end WireSchema
