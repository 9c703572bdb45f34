/-
WireSchema.Proofs.Layout.Slots — the slots of a table do not meet.

A table layout lists where the values of its fields start and where the tags of its unions do.
`Compound.SlotAt` joins both lists: a slot, its extent and its place. Placed slots follow each other
(`Placed.pairwise`), and so do the fields they belong to (`Resolved.pairwise_liveSlots`), so of any
two slots one lies wholly in front of the other and belongs to an earlier field, or is the tag of
the same field (`IsTableLayout.trichotomy`). Everything in `Compound.IsLaidOut` about more than one
slot is read off that.
-/
import Mathlib.Algebra.Order.Group.Nat
import WireSchema.Proofs.Layout.Reference

namespace WireSchema

open WireSchema.Resolved (Declaration)

/-! ## Placed extents -/

section

variable {start finish : Nat} {extents : List Extent} {offsets : List Nat}

theorem Placed.start_le_finish (h : Placed start extents offsets finish) : start ≤ finish := by
  induction h with
  | nil start => exact Nat.le_refl start
  | cons hoffset _ ih =>
    have hstart := hoffset.1.2
    omega

theorem Placed.offset_le_finish (h : Placed start extents offsets finish) :
    ∀ offset ∈ offsets, offset ≤ finish := by
  induction h with
  | nil start => simp
  | cons _ hrest ih =>
    have hfirst := hrest.start_le_finish
    rw [List.forall_mem_cons]
    exact ⟨by omega, ih⟩

theorem Placed.length_eq (h : Placed start extents offsets finish) :
    extents.length = offsets.length := by
  induction h with
  | nil start => rfl
  | cons _ _ ih => simp [ih]

theorem Placed.bounds (h : Placed start extents offsets finish) :
    ∀ entry ∈ extents.zip offsets, entry.1.alignment ∣ entry.2 ∧ start ≤ entry.2 ∧
      entry.2 + entry.1.size ≤ finish := by
  induction h with
  | nil start => simp
  | cons hoffset hrest ih =>
    have hstart := hoffset.1.2
    rw [List.zip_cons_cons, List.forall_mem_cons]
    refine ⟨⟨hoffset.1.1, hstart, hrest.start_le_finish⟩, fun entry hentry => ?_⟩
    obtain ⟨haligned, hfirst, hlast⟩ := ih entry hentry
    exact ⟨haligned, by omega, hlast⟩

/-- Each extent ends before the next one starts. -/
theorem Placed.pairwise (h : Placed start extents offsets finish) :
    (extents.zip offsets).Pairwise fun a b => a.2 + a.1.size ≤ b.2 := by
  induction h with
  | nil start => simp
  | cons _ hrest ih =>
    rw [List.zip_cons_cons, List.pairwise_cons]
    exact ⟨fun entry hentry => (hrest.bounds entry hentry).2.1, ih⟩

/-- The finish is where the last extent ends, or the start if there is none. -/
theorem Placed.isGreatest_finish (h : Placed start extents offsets finish) :
    IsGreatest ({start} ∪ {e | ∃ entry ∈ extents.zip offsets, entry.2 + entry.1.size = e})
      finish := by
  constructor
  · induction h with
    | nil start => exact .inl rfl
    | cons _ _ ih =>
      rcases ih with hfirst | ⟨entry, hentry, hends⟩
      · exact .inr ⟨_, List.mem_cons_self, hfirst.symm⟩
      · exact .inr ⟨entry, List.mem_cons_of_mem _ hentry, hends⟩
  · rintro e (rfl | ⟨entry, hentry, rfl⟩)
    · exact h.start_le_finish
    · exact (h.bounds entry hentry).2.2

end

/-! ## Proper extents -/

/-- An extent that is not empty, aligned to a power of two. -/
structure Extent.IsProper (e : Extent) : Prop where
  size_pos : 0 < e.size
  alignment : e.alignment.isPowerOfTwo

theorem Primitive.isProper (p : Primitive) : (Extent.ofPrimitive p).IsProper := by
  cases p <;> exact ⟨by decide, by decide⟩

theorem Extent.isProper_offset : Extent.offset.IsProper :=
  ⟨by decide, by decide⟩

theorem Resolved.Field.isProper_slot {inner : TypeName → Layout} {f : Field}
    (h : f.isInline = true → (inner f.type.name).extent.IsProper) : (f.slot inner).IsProper :=
  slot_induction Primitive.isProper Extent.isProper_offset h

theorem Resolved.Field.isProper_tagSlot (discriminant : Primitive) (f : Field) :
    (f.tagSlot discriminant).IsProper := by
  unfold tagSlot
  split
  · exact Extent.isProper_offset
  · exact discriminant.isProper

theorem Resolved.isProper_of_mem_liveSlots {discriminant : Primitive} {inner : TypeName → Layout}
    {fields : List Field} (h : ∀ f ∈ fields, f.isDeprecated = false → f.isInline = true →
      (inner f.type.name).extent.IsProper) :
    ∀ slot ∈ liveSlots discriminant inner fields, slot.extent.IsProper := by
  intro slot hslot
  obtain ⟨index, f, hf, hlive, hmem⟩ := mem_liveSlots_iff.mp hslot
  rcases Field.mem_slots_iff.mp hmem with ⟨_, rfl⟩ | rfl
  · exact f.isProper_tagSlot discriminant
  · exact Field.isProper_slot (h f (List.mem_of_getElem? hf) hlive)

/-- The alignment of a struct is that of a field, or the forced one. -/
theorem IsStructLayout.alignment_induction {P : Nat → Prop} {fields : List Extent}
    {forced : Option Nat} {layout : Layout} (h : IsStructLayout fields forced layout) (hone : P 1)
    (hfields : ∀ e ∈ fields, P e.alignment) (hforced : ∀ bytes, forced = some bytes → P bytes) :
    P layout.alignment := by
  rcases h.alignment.1 with (hleast | ⟨e, he, hsame⟩) | hbytes
  · exact hleast.symm ▸ hone
  · exact hsame ▸ hfields e he
  · exact hforced _ hbytes

/-- The alignment of a table is that of a slot, or that of the offset to its vtable. -/
theorem IsTableLayout.alignment_induction {P : Nat → Prop} {slots : List Slot} {layout : Layout}
    (h : IsTableLayout slots layout) (hfour : P 4)
    (hslots : ∀ slot ∈ slots, P slot.extent.alignment) : P layout.alignment := by
  rcases h.alignment.1 with hleast | ⟨slot, hslot, hsame⟩
  · exact hleast.symm ▸ hfour
  · exact hsame ▸ hslots slot hslot

/-- A struct of proper fields, at least one, is proper. -/
theorem IsStructLayout.isProper {fields : List Extent} {forced : Option Nat} {layout : Layout}
    (h : IsStructLayout fields forced layout) (hne : fields ≠ [])
    (hfields : ∀ e ∈ fields, e.IsProper)
    (hforced : ∀ bytes, forced = some bytes → bytes.isPowerOfTwo) : layout.extent.IsProper := by
  constructor
  · obtain ⟨offsets, finish, hplaced, hsize⟩ := h.size
    cases hplaced with
    | nil => exact absurd rfl hne
    | cons hoffset hrest =>
      have hfirst := (hfields _ List.mem_cons_self).size_pos
      have hfinish := hrest.start_le_finish
      have hlast : finish ≤ layout.size := hsize.1.2
      show 0 < layout.size
      omega
  · exact h.alignment_induction ⟨0, rfl⟩ (fun e he => (hfields e he).alignment) hforced

/-- A table over proper slots is proper. -/
theorem IsTableLayout.isProper {slots : List Slot} {layout : Layout}
    (h : IsTableLayout slots layout) (hslots : ∀ slot ∈ slots, slot.extent.IsProper) :
    layout.extent.IsProper := by
  constructor
  · obtain ⟨offsets, finish, hplaced, hsize, _⟩ := h.offsets
    have hfinish := hplaced.start_le_finish
    have hlast : finish ≤ layout.size := hsize.1.2
    show 0 < layout.size
    omega
  · exact h.alignment_induction ⟨2, rfl⟩ fun slot hslot => (hslots slot hslot).alignment

/-- What holds of the alignments of primitives and of the forced ones holds of all. -/
theorem ReferenceLayout.alignment_induction {P : Nat → Prop}
    {declared : TypeName → Option Declaration} (hprimitive : ∀ p : Primitive, P p.alignment)
    (hforced : ∀ name s bytes, declared name = some (.struct s) →
      s.forceAlign = some bytes → P bytes)
    {discriminant : Primitive} {d : Declaration} {layout : Layout}
    (h : ReferenceLayout declared discriminant d layout) {name : TypeName}
    (hd : declared name = some d) : P layout.alignment := by
  induction h generalizing name with
  | enum e => exact hprimitive e.underlying
  | union u => exact hprimitive discriminant
  | @struct s layout inner type htype _ hlayout ih =>
    refine hlayout.alignment_induction (hprimitive .bool) ?_ fun bytes => hforced name s bytes hd
    intro e he
    obtain ⟨f, hf, rfl⟩ := List.mem_map.mp he
    refine Resolved.Field.slot_induction (P := fun e => P e.alignment) hprimitive
      (hprimitive .int) fun hinline => ?_
    have hmem := List.mem_filter.mpr ⟨hf, hinline⟩
    exact ih f hmem (htype f hmem)
  | @table t layout inner type htype _ hlayout ih =>
    refine hlayout.alignment_induction (hprimitive .int) fun slot hslot => ?_
    obtain ⟨index, f, hf, hlive, hmem⟩ := Resolved.mem_liveSlots_iff.mp hslot
    rcases Resolved.Field.mem_slots_iff.mp hmem with ⟨_, rfl⟩ | rfl
    · show P (f.tagSlot discriminant).alignment
      unfold Resolved.Field.tagSlot
      split
      · exact hprimitive .int
      · exact hprimitive discriminant
    · refine Resolved.Field.slot_induction (P := fun e => P e.alignment) hprimitive
        (hprimitive .int) fun hinline => ?_
      have hmem := Resolved.mem_inlineFields_table (List.mem_of_getElem? hf) hlive hinline
      exact ih f hmem (htype f hmem)

/-- Where every struct has a field and forces powers of two only, all layouts are proper. -/
theorem ReferenceLayout.isProper {declared : TypeName → Option Declaration}
    (hstructs : ∀ name s, declared name = some (.struct s) → s.fields ≠ [] ∧
      ∀ bytes, s.forceAlign = some bytes → bytes.isPowerOfTwo)
    {discriminant : Primitive} {d : Declaration} {layout : Layout}
    (h : ReferenceLayout declared discriminant d layout) {name : TypeName}
    (hd : declared name = some d) : layout.extent.IsProper := by
  induction h generalizing name with
  | enum e => exact e.underlying.isProper
  | union u => exact discriminant.isProper
  | @struct s layout inner type htype _ hlayout ih =>
    obtain ⟨hne, hforced⟩ := hstructs name s hd
    refine hlayout.isProper (by simpa using hne) ?_ hforced
    intro e he
    obtain ⟨f, hf, rfl⟩ := List.mem_map.mp he
    refine Resolved.Field.isProper_slot fun hinline => ?_
    have hmem := List.mem_filter.mpr ⟨hf, hinline⟩
    exact ih f hmem (htype f hmem)
  | @table t layout inner type htype _ hlayout ih =>
    refine hlayout.isProper (Resolved.isProper_of_mem_liveSlots fun f hf hlive hinline => ?_)
    have hmem := Resolved.mem_inlineFields_table hf hlive hinline
    exact ih f hmem (htype f hmem)

/-! ## Slots in order -/

/-- One slot comes before another: its field does, or it is the tag of the field's value. -/
def Slot.Precedes (a b : Slot) : Prop :=
  a.index < b.index ∨ a.index = b.index ∧ a.role = .tag ∧ b.role = .value

theorem Slot.Precedes.asymm {a b : Slot} (h : a.Precedes b) : ¬ b.Precedes a := by
  intro h'
  rcases h with hlt | ⟨heq, htag, hvalue⟩
  · rcases h' with hlt' | ⟨heq', _⟩ <;> omega
  · rcases h' with hlt' | ⟨_, htag', _⟩
    · omega
    · cases hvalue.symm.trans htag'

/-- Nothing comes between the tag and the value of one field. -/
theorem Slot.Precedes.index_lt_of_between {a b c : Slot} (hfirst : a.Precedes b)
    (hsecond : b.Precedes c) : a.index < c.index := by
  rcases hfirst with hlt | ⟨heq, _, hvalue⟩
  · rcases hsecond with hlt' | ⟨heq', _⟩ <;> omega
  · rcases hsecond with hlt' | ⟨_, htag, _⟩
    · omega
    · cases hvalue.symm.trans htag

namespace Resolved

variable {discriminant : Primitive} {inner : TypeName → Layout}

theorem Field.index_of_mem_slots {f : Field} {index : Nat} {slot : Slot}
    (h : slot ∈ f.slots discriminant inner index) : slot.index = index := by
  rcases mem_slots_iff.mp h with ⟨_, rfl⟩ | rfl <;> rfl

theorem Field.pairwise_slots (f : Field) (index : Nat) :
    (f.slots discriminant inner index).Pairwise Slot.Precedes := by
  unfold slots
  split <;> simp [Slot.Precedes]

theorem pairwise_zipIdx (fields : List Field) (start : Nat) :
    (fields.zipIdx start).Pairwise fun a b => a.2 < b.2 := by
  rw [← List.pairwise_map (f := Prod.snd), List.zipIdx_map_snd]
  exact List.pairwise_lt_range'

/-- Each field in use has a slot for its value, and each union among them one for its tag. -/
theorem exists_slot_iff {fields : List Field} {role : SlotRole} {index : Nat} :
    (∃ slot ∈ liveSlots discriminant inner fields, slot.role = role ∧ slot.index = index) ↔
      ∃ f, fields[index]? = some f ∧ f.isDeprecated = false ∧
        (role = .tag → f.type.kind = .union) := by
  constructor
  · intro h
    obtain ⟨slot, hslot, rfl, rfl⟩ := h
    obtain ⟨index, f, hf, hlive, hmem⟩ := mem_liveSlots_iff.mp hslot
    rw [Field.index_of_mem_slots hmem]
    refine ⟨f, hf, hlive, fun htag => ?_⟩
    rcases Field.mem_slots_iff.mp hmem with ⟨hunion, _⟩ | rfl
    · exact hunion
    · cases htag
  · intro h
    obtain ⟨f, hf, hlive, hunion⟩ := h
    have hslots : ∃ slot ∈ f.slots discriminant inner index, slot.role = role := by
      cases role with
      | value => exact ⟨_, Field.mem_slots_iff.mpr (.inr rfl), rfl⟩
      | tag => exact ⟨_, Field.mem_slots_iff.mpr (.inl ⟨hunion rfl, rfl⟩), rfl⟩
    obtain ⟨slot, hslot, hrole⟩ := hslots
    exact ⟨slot, mem_liveSlots_iff.mpr ⟨index, f, hf, hlive, hslot⟩, hrole,
      Field.index_of_mem_slots hslot⟩

/-- Slots stand in the order of their fields, tags in front of values. -/
theorem pairwise_liveSlots (discriminant : Primitive) (inner : TypeName → Layout)
    (fields : List Field) :
    (liveSlots discriminant inner fields).Pairwise Slot.Precedes := by
  rw [liveSlots, List.pairwise_flatMap]
  refine ⟨fun entry _ => entry.1.pairwise_slots entry.2, ?_⟩
  refine ((pairwise_zipIdx fields 0).filter _).imp fun hlt a ha b hb => .inl ?_
  rw [Field.index_of_mem_slots ha, Field.index_of_mem_slots hb]
  exact hlt

end Resolved

/-! ## Slots with their places -/

theorem mem_roleOffsets_iff {role : SlotRole} {slots : List Slot} {offsets : List Nat}
    {index offset : Nat} : (index, offset) ∈ roleOffsets role slots offsets ↔
      ∃ slot, (slot, offset) ∈ slots.zip offsets ∧ slot.role = role ∧ slot.index = index := by
  simp only [roleOffsets, List.mem_map, List.mem_filter, beq_iff_eq, Prod.exists, Prod.mk.injEq]
  constructor
  · intro h
    obtain ⟨slot, place, ⟨hmem, hrole⟩, hindex, rfl⟩ := h
    exact ⟨slot, hmem, hrole, hindex⟩
  · intro h
    obtain ⟨slot, hmem, hrole, hindex⟩ := h
    exact ⟨slot, offset, ⟨hmem, hrole⟩, hindex, rfl⟩

/-- A slot of a table and the place where its layout puts it. -/
inductive Resolved.Compound.SlotAt (t : Compound) (discriminant : Primitive)
    (inner : TypeName → Layout) (layout : Layout) : Slot → Nat → Prop
  | value {index offset : Nat} {f : Field} {offsets : List (Nat × Nat)}
      (hf : t.fields[index]? = some f) (hoffsets : layout.fieldOffsets = some offsets)
      (hmem : (index, offset) ∈ offsets) :
      SlotAt t discriminant inner layout ⟨index, .value, f.slot inner⟩ offset
  | tag {index offset : Nat} {f : Field} (hf : t.fields[index]? = some f)
      (hmem : (index, offset) ∈ layout.tagOffsets) :
      SlotAt t discriminant inner layout ⟨index, .tag, f.tagSlot discriminant⟩ offset

/-- The fields in use have offsets under their indices, and the unions among them have two. -/
structure Resolved.Compound.IsIndexed (t : Compound) (layout : Layout) : Prop where
  fieldKeys : ∃ offsets, layout.fieldOffsets = some offsets ∧
    (offsets.map (·.1)).Pairwise (· < ·) ∧ ∀ index, index ∈ offsets.map (·.1) ↔
      ∃ f, t.fields[index]? = some f ∧ f.isDeprecated = false
  tagKeys : (layout.tagOffsets.map (·.1)).Pairwise (· < ·) ∧
    ∀ index, index ∈ layout.tagOffsets.map (·.1) ↔
      ∃ f, t.fields[index]? = some f ∧ f.isDeprecated = false ∧ f.type.kind = .union

/-- The fields in use have their slots in a table, and no two slots meet. -/
structure Resolved.Compound.IsLaidOut (t : Compound) (discriminant : Primitive)
    (inner : TypeName → Layout) (layout : Layout) : Prop extends t.IsIndexed layout where
  aligned : ∀ slot offset, t.SlotAt discriminant inner layout slot offset →
    slot.extent.alignment ∣ offset
  inside : ∀ slot offset, t.SlotAt discriminant inner layout slot offset →
    4 ≤ offset ∧ 0 < slot.extent.size ∧ offset + slot.extent.size ≤ layout.size
  disjoint : ∀ slot offset other place, t.SlotAt discriminant inner layout slot offset →
    t.SlotAt discriminant inner layout other place → (slot, offset) ≠ (other, place) →
      offset + slot.extent.size ≤ place ∨ place + other.extent.size ≤ offset
  increasing : ∀ slot offset other place, t.SlotAt discriminant inner layout slot offset →
    t.SlotAt discriminant inner layout other place → slot.index < other.index → offset < place
  tagFirst : ∀ tag offset value place, t.SlotAt discriminant inner layout tag offset →
    t.SlotAt discriminant inner layout value place → tag.role = .tag → value.role = .value →
      tag.index = value.index → offset < place ∧ ∀ other between,
        t.SlotAt discriminant inner layout other between → ¬ (offset < between ∧ between < place)
  alignment : layout.alignment.isPowerOfTwo ∧ 4 ≤ layout.alignment ∧
    ∀ slot offset, t.SlotAt discriminant inner layout slot offset →
      slot.extent.alignment ∣ layout.alignment
  size : ∃ finish, IsGreatest ({4} ∪ {e | ∃ slot offset,
      t.SlotAt discriminant inner layout slot offset ∧ offset + slot.extent.size = e}) finish ∧
    IsFirstAligned layout.alignment finish layout.size

/-- Different slots of a table start at different places. -/
theorem Resolved.Compound.IsLaidOut.ne_of_slotAt {t : Resolved.Compound}
    {discriminant : Primitive} {inner : TypeName → Layout} {layout : Layout}
    (h : t.IsLaidOut discriminant inner layout) {slot other : Slot} {offset place : Nat}
    (hslot : t.SlotAt discriminant inner layout slot offset)
    (hother : t.SlotAt discriminant inner layout other place) (hne : slot ≠ other) :
    offset ≠ place := by
  obtain ⟨_, hsize, _⟩ := h.inside slot offset hslot
  obtain ⟨_, hsize', _⟩ := h.inside other place hother
  have hdifferent : (slot, offset) ≠ (other, place) := fun heq => hne (Prod.mk.inj heq).1
  rcases h.disjoint slot offset other place hslot hother hdifferent with hbefore | hbehind
  · omega
  · omega

theorem dvd_of_isPowerOfTwo_of_le {a b : Nat} (ha : a.isPowerOfTwo) (hb : b.isPowerOfTwo)
    (hle : a ≤ b) : a ∣ b := by
  obtain ⟨k, rfl⟩ := ha
  obtain ⟨l, rfl⟩ := hb
  exact Nat.pow_dvd_pow 2 ((Nat.pow_le_pow_iff_right (by decide)).mp hle)

namespace IsTableLayout

section

variable {slots : List Slot} {offsets : List Nat} {start finish : Nat}
  (hplaced : Placed start (slots.map (·.extent)) offsets finish)

include hplaced

theorem map_fst_zip : (slots.zip offsets).map Prod.fst = slots :=
  List.map_fst_zip (by simpa using hplaced.length_eq.le)

theorem bounds {slot : Slot} {offset : Nat} (h : (slot, offset) ∈ slots.zip offsets) :
    slot.extent.alignment ∣ offset ∧ start ≤ offset ∧ offset + slot.extent.size ≤ finish := by
  refine hplaced.bounds (slot.extent, offset) ?_
  rw [List.zip_map_left]
  exact List.mem_map.mpr ⟨(slot, offset), h, rfl⟩

/-- The finish is where the last slot ends, or the start if there is none. -/
theorem isGreatest_finish : IsGreatest ({start} ∪ {e | ∃ slot offset,
    (slot, offset) ∈ slots.zip offsets ∧ offset + slot.extent.size = e}) finish := by
  have hgreatest := hplaced.isGreatest_finish
  simp only [List.zip_map_left, List.mem_map, exists_exists_and_eq_and, Prod.map_fst,
    Prod.map_snd, id_eq] at hgreatest
  simpa only [Prod.exists] using hgreatest

/-- Along the places, slots neither meet nor change the order of their fields. -/
theorem pairwise_zip (hordered : slots.Pairwise Slot.Precedes) :
    (slots.zip offsets).Pairwise fun a b =>
      a.2 + a.1.extent.size ≤ b.2 ∧ a.1.Precedes b.1 := by
  have happart := hplaced.pairwise
  rw [List.zip_map_left, List.pairwise_map] at happart
  rw [← map_fst_zip hplaced, List.pairwise_map] at hordered
  exact happart.and hordered

/-- Two slots are the same, or one of them comes before the other and ends before it. -/
theorem trichotomy (hordered : slots.Pairwise Slot.Precedes) {slot other : Slot}
    {offset place : Nat} (hslot : (slot, offset) ∈ slots.zip offsets)
    (hother : (other, place) ∈ slots.zip offsets) :
    (slot, offset) = (other, place) ∨
      (offset + slot.extent.size ≤ place ∧ slot.Precedes other) ∨
        (place + other.extent.size ≤ offset ∧ other.Precedes slot) := by
  obtain ⟨i, hi, hslot⟩ := List.getElem_of_mem hslot
  obtain ⟨j, hj, hother⟩ := List.getElem_of_mem hother
  have hpairs := List.pairwise_iff_getElem.mp (pairwise_zip hplaced hordered)
  rcases Nat.lt_trichotomy i j with hlt | rfl | hlt
  · have hbefore := hpairs i j hi hj hlt
    rw [hslot, hother] at hbefore
    exact .inr (.inl hbefore)
  · exact .inl (hslot.symm.trans hother)
  · have hbefore := hpairs j i hj hi hlt
    rw [hslot, hother] at hbefore
    exact .inr (.inr hbefore)

/-- With positive sizes, slots start in their order. -/
theorem lt_iff_precedes (hordered : slots.Pairwise Slot.Precedes)
    (hsizes : ∀ slot ∈ slots, 0 < slot.extent.size) {slot other : Slot} {offset place : Nat}
    (hslot : (slot, offset) ∈ slots.zip offsets) (hother : (other, place) ∈ slots.zip offsets) :
    offset < place ↔ slot.Precedes other := by
  have hsize := hsizes slot (List.of_mem_zip hslot).1
  have hsize' := hsizes other (List.of_mem_zip hother).1
  rcases trichotomy hplaced hordered hslot hother with heq | ⟨hbefore, hprecedes⟩ |
    ⟨hbehind, hfollows⟩
  · cases heq
    exact iff_of_false (Nat.lt_irrefl offset) fun hself => hself.asymm hself
  · exact iff_of_true (by omega) hprecedes
  · exact iff_of_false (by omega) hfollows.asymm

/-- The slots of one role have increasing indices. -/
theorem pairwise_roleOffsets (hordered : slots.Pairwise Slot.Precedes) (role : SlotRole) :
    ((roleOffsets role slots offsets).map (·.1)).Pairwise (· < ·) := by
  rw [roleOffsets, List.map_map, List.pairwise_map, List.pairwise_filter]
  refine (pairwise_zip hplaced hordered).imp fun hbefore hfirst hsecond => ?_
  rcases hbefore.2 with hlt | ⟨_, htag, hvalue⟩
  · exact hlt
  · rw [beq_iff_eq] at hfirst hsecond
    rw [htag] at hfirst
    rw [hvalue, ← hfirst] at hsecond
    cases hsecond

theorem mem_map_roleOffsets_iff {role : SlotRole} {index : Nat} :
    index ∈ (roleOffsets role slots offsets).map (·.1) ↔
      ∃ slot ∈ slots, slot.role = role ∧ slot.index = index := by
  constructor
  · intro h
    obtain ⟨⟨_, offset⟩, hmem, rfl⟩ := List.mem_map.mp h
    obtain ⟨slot, hslot, hrole, hindex⟩ := mem_roleOffsets_iff.mp hmem
    exact ⟨slot, (List.of_mem_zip hslot).1, hrole, hindex⟩
  · intro h
    obtain ⟨slot, hslot, hrole, hindex⟩ := h
    rw [← map_fst_zip hplaced] at hslot
    obtain ⟨⟨_, offset⟩, hmem, rfl⟩ := List.mem_map.mp hslot
    exact List.mem_map.mpr ⟨_, mem_roleOffsets_iff.mpr ⟨_, hmem, hrole, hindex⟩, rfl⟩

end

variable {t : Resolved.Compound} {discriminant : Primitive} {inner : TypeName → Layout}
  {layout : Layout}

/-- The two lists of a layout have the slots of the fields, each with its place. -/
theorem slotAt_iff {offsets : List Nat}
    (hfields : layout.fieldOffsets =
      some (roleOffsets .value (Resolved.liveSlots discriminant inner t.fields) offsets))
    (htags : layout.tagOffsets =
      roleOffsets .tag (Resolved.liveSlots discriminant inner t.fields) offsets)
    {slot : Slot} {offset : Nat} : t.SlotAt discriminant inner layout slot offset ↔
      (slot, offset) ∈ (Resolved.liveSlots discriminant inner t.fields).zip offsets := by
  constructor
  · intro h
    cases h with
    | value hf hoffsets hmem =>
      cases hfields.symm.trans hoffsets
      obtain ⟨slot, hslot, hrole, rfl⟩ := mem_roleOffsets_iff.mp hmem
      obtain ⟨index, f, hf', _, hmem'⟩ :=
        Resolved.mem_liveSlots_iff.mp (List.of_mem_zip hslot).1
      rcases Resolved.Field.mem_slots_iff.mp hmem' with ⟨_, rfl⟩ | rfl
      · cases hrole
      · cases hf.symm.trans hf'
        exact hslot
    | tag hf hmem =>
      rw [htags] at hmem
      obtain ⟨slot, hslot, hrole, rfl⟩ := mem_roleOffsets_iff.mp hmem
      obtain ⟨index, f, hf', _, hmem'⟩ :=
        Resolved.mem_liveSlots_iff.mp (List.of_mem_zip hslot).1
      rcases Resolved.Field.mem_slots_iff.mp hmem' with ⟨_, rfl⟩ | rfl
      · cases hf.symm.trans hf'
        exact hslot
      · cases hrole
  · intro h
    obtain ⟨index, f, hf, _, hslot⟩ := Resolved.mem_liveSlots_iff.mp (List.of_mem_zip h).1
    rcases Resolved.Field.mem_slots_iff.mp hslot with ⟨_, rfl⟩ | rfl
    · exact .tag hf (htags ▸ mem_roleOffsets_iff.mpr ⟨_, h, rfl, rfl⟩)
    · exact .value hf hfields (mem_roleOffsets_iff.mpr ⟨_, h, rfl, rfl⟩)

/-- A table has offsets for the fields in use, whatever their extents are. -/
theorem isIndexed (h : IsTableLayout (Resolved.liveSlots discriminant inner t.fields) layout) :
    t.IsIndexed layout := by
  obtain ⟨offsets, finish, hplaced, _, hfields, htags⟩ := h.offsets
  have hordered := Resolved.pairwise_liveSlots discriminant inner t.fields
  constructor
  case fieldKeys =>
    refine ⟨_, hfields, pairwise_roleOffsets hplaced hordered .value, fun index => ?_⟩
    simp [mem_map_roleOffsets_iff hplaced, Resolved.exists_slot_iff]
  case tagKeys =>
    rw [htags]
    refine ⟨pairwise_roleOffsets hplaced hordered .tag, fun index => ?_⟩
    simp [mem_map_roleOffsets_iff hplaced, Resolved.exists_slot_iff]

/-- Over proper slots, a table is laid out without collisions. -/
theorem isLaidOut (h : IsTableLayout (Resolved.liveSlots discriminant inner t.fields) layout)
    (hproper : ∀ slot ∈ Resolved.liveSlots discriminant inner t.fields, slot.extent.IsProper) :
    t.IsLaidOut discriminant inner layout := by
  obtain ⟨offsets, finish, hplaced, hsize, hfields, htags⟩ := h.offsets
  have hslots : ∀ slot offset, t.SlotAt discriminant inner layout slot offset ↔
      (slot, offset) ∈ (Resolved.liveSlots discriminant inner t.fields).zip offsets :=
    fun _ _ => slotAt_iff hfields htags
  have hordered := Resolved.pairwise_liveSlots discriminant inner t.fields
  have hsizes := fun slot hslot => (hproper slot hslot).size_pos
  have hpower : layout.alignment.isPowerOfTwo := (h.isProper hproper).alignment
  constructor
  case toIsIndexed => exact h.isIndexed
  case aligned =>
    intro slot offset hslot
    exact (bounds hplaced ((hslots slot offset).mp hslot)).1
  case inside =>
    intro slot offset hslot
    have hmem := (hslots slot offset).mp hslot
    obtain ⟨_, hstart, hfinish⟩ := bounds hplaced hmem
    exact ⟨hstart, hsizes slot (List.of_mem_zip hmem).1, Nat.le_trans hfinish hsize.1.2⟩
  case disjoint =>
    intro slot offset other place hslot hother hne
    rcases trichotomy hplaced hordered ((hslots _ _).mp hslot) ((hslots _ _).mp hother) with
      heq | ⟨hbefore, _⟩ | ⟨hbehind, _⟩
    · exact absurd heq hne
    · exact .inl hbefore
    · exact .inr hbehind
  case increasing =>
    intro slot offset other place hslot hother hindex
    exact (lt_iff_precedes hplaced hordered hsizes ((hslots _ _).mp hslot)
      ((hslots _ _).mp hother)).mpr (.inl hindex)
  case tagFirst =>
    intro tag offset value place htag hvalue hrole hrole' hindex
    refine ⟨(lt_iff_precedes hplaced hordered hsizes ((hslots _ _).mp htag)
      ((hslots _ _).mp hvalue)).mpr (.inr ⟨hindex, hrole, hrole'⟩), ?_⟩
    intro other between hother hbetween
    have hbehind := (lt_iff_precedes hplaced hordered hsizes ((hslots _ _).mp htag)
      ((hslots _ _).mp hother)).mp hbetween.1
    have hbefore := (lt_iff_precedes hplaced hordered hsizes ((hslots _ _).mp hother)
      ((hslots _ _).mp hvalue)).mp hbetween.2
    have hlt := hbehind.index_lt_of_between hbefore
    omega
  case alignment =>
    refine ⟨hpower, h.alignment.2 (by simp), fun slot offset hslot => ?_⟩
    have hmem := (List.of_mem_zip ((hslots slot offset).mp hslot)).1
    exact dvd_of_isPowerOfTwo_of_le (hproper slot hmem).alignment hpower
      (h.alignment.2 (.inr ⟨slot, hmem, rfl⟩))
  case size =>
    refine ⟨finish, ?_, hsize⟩
    simp only [hslots]
    exact isGreatest_finish hplaced

end IsTableLayout

end WireSchema
