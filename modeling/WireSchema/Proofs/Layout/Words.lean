/-
WireSchema.Proofs.Layout.Words — layouts computed in machine words.

Offsets are computed in machine words, reference layouts in numbers without bound. Alignments divide the
number of words, so the two agree modulo that number: rounding up a wrapped offset gives the wrapped
result (`Wire.alignUp_wrap`), slots are placed at wrapped offsets (`Placed.offsetsFrom_wrap`), and whole
layouts come out wrapped (`IsStructLayout.ofStruct_slots`, `IsTableLayout.ofTable_slots`). Wrapping
leaves a reference layout as it is exactly where its size is a word:
`ReferenceLayout.wrap_eq_self_iff`.
-/
import WireSchema.Proofs.Layout.Slots
import WireSchema.Settings

namespace WireSchema

open WireSchema.Resolved (Declaration)

/-! ## Words -/

namespace Wire

theorem wrap_lt (n : Nat) : wrap n < wordCount :=
  Nat.mod_lt n (by decide)

theorem wrap_of_lt {n : Nat} (h : n < wordCount) : wrap n = n :=
  Nat.mod_eq_of_lt h

theorem wrap_eq_self_iff {n : Nat} : wrap n = n ↔ n < wordCount :=
  ⟨fun h => h ▸ wrap_lt n, wrap_of_lt⟩

theorem wrap_wrap_add_wrap (m n : Nat) : wrap (wrap m + wrap n) = wrap (m + n) :=
  (Nat.add_mod m n wordCount).symm

/-- What divides the number of words divides a number and its word alike. -/
theorem dvd_wrap_iff {a n : Nat} (h : a ∣ wordCount) : a ∣ wrap n ↔ a ∣ n :=
  Nat.dvd_mod_iff h

end Wire

/-- A multiple of the alignment may be added on both sides. -/
theorem IsFirstAligned.add_of_dvd {alignment start offset shift : Nat}
    (h : IsFirstAligned alignment start offset) (hshift : alignment ∣ shift) :
    IsFirstAligned alignment (start + shift) (offset + shift) := by
  refine ⟨⟨Nat.dvd_add h.1.1 hshift, Nat.add_le_add_right h.1.2 shift⟩, ?_⟩
  rintro bound ⟨hdvd, hstart⟩
  have hleast := h.2 ⟨Nat.dvd_sub hdvd hshift, Nat.le_sub_of_add_le hstart⟩
  omega

/-- A wrapped offset rounds up to the wrapped result. -/
theorem Wire.alignUp_wrap {alignment start offset : Nat}
    (h : IsFirstAligned alignment start offset) (hword : alignment ∣ wordCount) :
    alignUp (wrap start) alignment = wrap offset := by
  have hpos : 0 < alignment := Nat.pos_of_dvd_of_pos hword (by decide)
  have hfirst := (isFirstAligned_roundUp (wrap start) hpos).add_of_dvd
    (Nat.dvd_mul_left_of_dvd hword (start / wordCount))
  rw [wrap, Nat.mod_add_div', ← wrap] at hfirst
  rw [h.unique hfirst, alignUp, Nat.max_eq_left hpos]
  exact (Nat.add_mul_mod_self_right ..).symm

/-! ## Wrapped layouts -/

/-- An extent whose size is a word. -/
def Extent.wrap (e : Extent) : Extent :=
  { e with size := Wire.wrap e.size }

/-- A slot whose size is a word. -/
def Slot.wrap (slot : Slot) : Slot :=
  { slot with extent := slot.extent.wrap }

/-- Offsets as words, under the indices they have. -/
def wrapOffsets (offsets : List (Nat × Nat)) : List (Nat × Nat) :=
  offsets.map fun entry => (entry.1, Wire.wrap entry.2)

/-- A layout whose size and offsets are words. -/
def Layout.wrap (layout : Layout) : Layout :=
  { layout with
    size := Wire.wrap layout.size
    fieldOffsets := layout.fieldOffsets.map wrapOffsets
    tagOffsets := wrapOffsets layout.tagOffsets }

theorem Wire.wrap_wrap (n : Nat) : wrap (wrap n) = wrap n :=
  wrap_of_lt (wrap_lt n)

theorem wrapOffsets_wrapOffsets (offsets : List (Nat × Nat)) :
    wrapOffsets (wrapOffsets offsets) = wrapOffsets offsets := by
  simp [wrapOffsets, Wire.wrap_wrap]

theorem Layout.wrap_wrap (layout : Layout) : layout.wrap.wrap = layout.wrap := by
  obtain ⟨alignment, size, fieldOffsets, tagOffsets⟩ := layout
  cases fieldOffsets <;> simp [wrap, Wire.wrap_wrap, wrapOffsets_wrapOffsets]

theorem map_fst_wrapOffsets (offsets : List (Nat × Nat)) :
    (wrapOffsets offsets).map (·.1) = offsets.map (·.1) := by
  simp [wrapOffsets]

theorem wrapOffsets_append (offsets added : List (Nat × Nat)) :
    wrapOffsets (offsets ++ added) = wrapOffsets offsets ++ wrapOffsets added :=
  List.map_append

theorem wrapOffsets_of_lt {offsets : List (Nat × Nat)}
    (h : ∀ entry ∈ offsets, entry.2 < Wire.wordCount) : wrapOffsets offsets = offsets := by
  have hsame : ∀ entry ∈ offsets, (entry.1, Wire.wrap entry.2) = id entry := fun entry hentry => by
    rw [Wire.wrap_of_lt (h entry hentry), id]
  rw [wrapOffsets, List.map_congr_left hsame, List.map_id]

/-- Slots of wrapped sizes are placed at wrapped offsets. -/
theorem Placed.offsetsFrom_wrap {start finish : Nat} {extents : List Extent} {offsets : List Nat}
    (h : Placed start extents offsets finish)
    (hword : ∀ e ∈ extents, e.alignment ∣ Wire.wordCount) :
    Extent.offsetsFrom (Wire.wrap start) (extents.map Extent.wrap) = offsets.map Wire.wrap ∧
      Extent.endFrom (Wire.wrap start) (extents.map Extent.wrap) = Wire.wrap finish := by
  induction h with
  | nil start => exact ⟨rfl, rfl⟩
  | @cons start finish offset offsets e rest hoffset _ ih =>
    rw [List.forall_mem_cons] at hword
    have hfirst : Wire.alignUp (Wire.wrap start) e.wrap.alignment = Wire.wrap offset :=
      Wire.alignUp_wrap hoffset hword.1
    have hends : e.wrap.endAt (Wire.wrap start) = Wire.wrap (offset + e.size) := by
      rw [Extent.endAt, hfirst]
      exact Wire.wrap_wrap_add_wrap offset e.size
    obtain ⟨hoffsets, hfinish⟩ := ih hword.2
    simp only [List.map_cons, Extent.offsetsFrom, Extent.endFrom, hfirst, hends, hoffsets, hfinish,
      and_self]

/-- Slots that end at a word are placed where they belong. -/
theorem Placed.offsetsFrom_eq {start finish : Nat} {extents : List Extent} {offsets : List Nat}
    (h : Placed start extents offsets finish)
    (hword : ∀ e ∈ extents, e.alignment ∣ Wire.wordCount) (hfinish : finish < Wire.wordCount) :
    Extent.offsetsFrom start extents = offsets := by
  induction h with
  | nil start => rfl
  | @cons start finish offset offsets e rest hoffset hrest ih =>
    rw [List.forall_mem_cons] at hword
    have hstart : start ≤ offset := hoffset.1.2
    have hends := hrest.start_le_finish
    have hfirst := Wire.alignUp_wrap hoffset hword.1
    rw [Wire.wrap_of_lt (by omega), Wire.wrap_of_lt (by omega)] at hfirst
    rw [Extent.offsetsFrom, Extent.endAt, hfirst, Wire.wrap_of_lt (by omega),
      ih hword.2 hfinish]

theorem Extent.length_offsetsFrom (start : Nat) (extents : List Extent) :
    (offsetsFrom start extents).length = extents.length := by
  induction extents generalizing start with
  | nil => rfl
  | cons e rest ih => rw [offsetsFrom, List.length_cons, List.length_cons, ih]

/-- Slots are aligned, whether they overflow or not. -/
theorem Extent.alignment_dvd_offsetsFrom {extents : List Extent}
    (hword : ∀ e ∈ extents, e.alignment ∣ Wire.wordCount) (start : Nat) :
    ∀ entry ∈ extents.zip (offsetsFrom start extents), entry.1.alignment ∣ entry.2 := by
  induction extents generalizing start with
  | nil => simp
  | cons e rest ih =>
    rw [List.forall_mem_cons] at hword
    have hpos : 0 < e.alignment := Nat.pos_of_dvd_of_pos hword.1 (by decide)
    rw [offsetsFrom, List.zip_cons_cons, List.forall_mem_cons, Wire.alignUp, Nat.max_eq_left hpos]
    exact ⟨(Wire.dvd_wrap_iff hword.1).mpr (Nat.dvd_mul_left _ _), ih hword.2 _⟩

/-- What is computed for a struct from the wrapped sizes of its fields is its layout wrapped. -/
theorem IsStructLayout.ofStruct_wrap {fields : List Extent} {forced : Option Nat} {layout : Layout}
    (h : IsStructLayout fields forced layout)
    (hfields : ∀ e ∈ fields, e.alignment ∣ Wire.wordCount)
    (hforced : ∀ bytes, forced = some bytes → bytes ∣ Wire.wordCount) :
    Layout.ofStruct (fields.map Extent.wrap) forced = layout.wrap := by
  have hgreatest := Layout.isGreatest_alignment_ofStruct (fields.map Extent.wrap) forced
  simp only [List.mem_map, exists_exists_and_eq_and, Extent.wrap] at hgreatest
  have halignment := hgreatest.unique h.alignment
  obtain ⟨offsets, finish, hplaced, hsize⟩ := h.size
  have hword : layout.alignment ∣ Wire.wordCount :=
    h.alignment_induction (P := (· ∣ Wire.wordCount)) (Nat.one_dvd _) hfields hforced
  have hends := Wire.alignUp_wrap hsize hword
  rw [← (hplaced.offsetsFrom_wrap hfields).2, ← halignment] at hends
  rw [Layout.wrap, h.fieldOffsets, h.tagOffsets, ← hends, ← halignment]
  rfl

theorem exists_isStructLayout {fields : List Extent} (h : ∀ e ∈ fields, 0 < e.alignment)
    (forced : Option Nat) : ∃ layout, IsStructLayout fields forced layout := by
  obtain ⟨alignment, hgreatest⟩ :
      ∃ alignment, IsGreatest ({1} ∪ {a | ∃ e ∈ fields, e.alignment = a} ∪ {a | forced = some a})
        alignment := ⟨_, Layout.isGreatest_alignment_ofStruct fields forced⟩
  obtain ⟨offsets, finish, hplaced⟩ := exists_placed h 0
  have hsize := isFirstAligned_roundUp finish (hgreatest.2 (by simp))
  exact ⟨⟨alignment, _, none, []⟩, hgreatest, ⟨offsets, finish, hplaced, hsize⟩, rfl, rfl⟩

theorem roleOffsets_wrap (role : SlotRole) (slots : List Slot) (offsets : List Nat) :
    roleOffsets role (slots.map Slot.wrap) (offsets.map Wire.wrap) =
      wrapOffsets (roleOffsets role slots offsets) := by
  simp only [roleOffsets, wrapOffsets, List.zip_map, List.filter_map, List.map_map]
  rfl

section Tables

variable {slots : List Slot} {layout : Layout}
  (htag : ∀ slot ∈ slots, slot.role = .tag → slot.extent.alignment ≤ 4)

include htag

/-- What is computed for a table from the wrapped sizes of its slots is its layout wrapped. -/
theorem IsTableLayout.ofTable_wrap (h : IsTableLayout slots layout)
    (hslots : ∀ slot ∈ slots, slot.extent.alignment ∣ Wire.wordCount) :
    Layout.ofTable (slots.map Slot.wrap) = layout.wrap := by
  have hgreatest : IsGreatest _ (Layout.ofTable (slots.map Slot.wrap)).alignment :=
    Layout.isGreatest_alignment_ofTable (List.forall_mem_map.mpr htag)
  simp only [List.mem_map, exists_exists_and_eq_and, Slot.wrap, Extent.wrap] at hgreatest
  have halignment := hgreatest.unique h.alignment
  obtain ⟨offsets, finish, hplaced, hsize, hfields, htags⟩ := h.offsets
  have hword : layout.alignment ∣ Wire.wordCount :=
    h.alignment_induction (P := (· ∣ Wire.wordCount)) (by decide) hslots
  have hextents : (slots.map Slot.wrap).map (·.extent) =
      (slots.map (·.extent)).map Extent.wrap := by
    simp [Slot.wrap]
  obtain ⟨hoffsets, hfinish⟩ := hplaced.offsetsFrom_wrap (List.forall_mem_map.mpr hslots)
  rw [← hextents] at hoffsets hfinish
  have hends := Wire.alignUp_wrap hsize hword
  rw [← hfinish, ← halignment] at hends
  have hrole : ∀ role, Layout.offsetsOf role (slots.map Slot.wrap) =
      wrapOffsets (roleOffsets role slots offsets) := by
    intro role
    rw [← roleOffsets_wrap, ← hoffsets]
    rfl
  rw [Layout.wrap, hfields, htags, Option.map_some, ← hrole, ← hrole, ← hends, ← halignment]
  rfl

theorem exists_isTableLayout (h : ∀ slot ∈ slots, 0 < slot.extent.alignment) :
    ∃ layout, IsTableLayout slots layout := by
  obtain ⟨alignment, hgreatest⟩ :
      ∃ alignment, IsGreatest ({4} ∪ {a | ∃ slot ∈ slots, slot.extent.alignment = a}) alignment :=
    ⟨_, Layout.isGreatest_alignment_ofTable htag⟩
  have hfour : 4 ≤ alignment := hgreatest.2 (by simp)
  obtain ⟨offsets, finish, hplaced⟩ := exists_placed (List.forall_mem_map.mpr h) 4
  have hsize := isFirstAligned_roundUp finish (by omega : 0 < alignment)
  exact ⟨⟨alignment, _, some _, _⟩, hgreatest, offsets, finish, hplaced, hsize, rfl, rfl⟩

end Tables

namespace Resolved

variable {discriminant : Primitive} {inner : TypeName → Layout}

theorem Field.slot_wrap (f : Field) :
    f.slot (fun name => (inner name).wrap) = (f.slot inner).wrap := by
  have hprimitive : ∀ p, (Extent.ofPrimitive p).wrap = .ofPrimitive p := by
    intro p
    cases p <;> rfl
  unfold slot
  split
  · rfl
  · cases f.type.kind with
    | primitive p => exact (hprimitive p).symm
    | enum => rfl
    | struct => rfl
    | union => rfl
    | table => rfl

theorem Field.tagSlot_wrap (f : Field) :
    (f.tagSlot discriminant).wrap = f.tagSlot discriminant := by
  unfold tagSlot
  split
  · rfl
  · cases discriminant <;> rfl

theorem liveSlots_wrap (fields : List Field) :
    liveSlots discriminant (fun name => (inner name).wrap) fields =
      (liveSlots discriminant inner fields).map Slot.wrap := by
  rw [liveSlots, liveSlots, List.map_flatMap]
  refine List.flatMap_congr fun entry _ => ?_
  unfold Field.slots
  split <;> simp [Slot.wrap, Field.slot_wrap, Field.tagSlot_wrap]

/-- The slot of an inline field is the whole of its type. -/
theorem Field.slot_of_isInline {f : Field} (h : f.isInline = true) :
    f.slot inner = (inner f.type.name).extent := by
  simp only [isInline, Bool.and_eq_true, Bool.not_eq_true', Bool.or_eq_true, beq_iff_eq] at h
  rcases h.2 with hkind | hkind <;> simp [slot, h.1, hkind]

/-! ## Layouts over the layouts of other types

Where the types held in place align to words, so do all slots. -/

theorem Field.slot_alignment_dvd {f : Field}
    (h : f.isInline = true → (inner f.type.name).alignment ∣ Wire.wordCount) :
    (f.slot inner).alignment ∣ Wire.wordCount :=
  slot_induction (P := fun e => e.alignment ∣ Wire.wordCount)
    (fun p => by cases p <;> decide) (by decide) h

theorem Field.tagSlot_alignment (h : discriminant.isDiscriminant = true) (f : Field) :
    (f.tagSlot discriminant).alignment ∣ Wire.wordCount ∧
      (f.tagSlot discriminant).alignment ≤ 4 := by
  unfold tagSlot
  split
  · decide
  · revert h
    cases discriminant <;> decide

theorem alignment_dvd_of_mem_slots {s : Compound}
    (h : ∀ f ∈ (Declaration.struct s).inlineFields,
      (inner f.type.name).alignment ∣ Wire.wordCount) :
    ∀ e ∈ s.fields.map (·.slot inner), e.alignment ∣ Wire.wordCount := by
  intro e he
  obtain ⟨f, hf, rfl⟩ := List.mem_map.mp he
  exact Field.slot_alignment_dvd fun hinline => h f (List.mem_filter.mpr ⟨hf, hinline⟩)

theorem alignment_dvd_of_mem_liveSlots (hdiscriminant : discriminant.isDiscriminant = true)
    {t : Compound} (h : ∀ f ∈ (Declaration.table t).inlineFields,
      (inner f.type.name).alignment ∣ Wire.wordCount) :
    ∀ slot ∈ liveSlots discriminant inner t.fields, slot.extent.alignment ∣ Wire.wordCount := by
  intro slot hslot
  obtain ⟨index, f, hf, hlive, hslot⟩ := mem_liveSlots_iff.mp hslot
  rcases Field.mem_slots_iff.mp hslot with ⟨_, rfl⟩ | rfl
  · exact (f.tagSlot_alignment hdiscriminant).1
  · exact Field.slot_alignment_dvd fun hinline =>
      h f (mem_inlineFields_table (List.mem_of_getElem? hf) hlive hinline)

/-- Tags are aligned to no more than an offset is. -/
theorem tag_alignment_le (hdiscriminant : discriminant.isDiscriminant = true)
    {fields : List Field} : ∀ slot ∈ liveSlots discriminant inner fields, slot.role = .tag →
      slot.extent.alignment ≤ 4 := by
  intro slot hslot hrole
  obtain ⟨index, f, _, _, hslot⟩ := mem_liveSlots_iff.mp hslot
  rcases Field.mem_slots_iff.mp hslot with ⟨_, rfl⟩ | rfl
  · exact (f.tagSlot_alignment hdiscriminant).2
  · cases hrole

end Resolved

section

variable {inner words : TypeName → Layout} {exact : Layout}

/-- Computed over words, the layout of a struct is its layout in words. -/
theorem IsStructLayout.ofStruct_slots {s : Resolved.Compound}
    (h : IsStructLayout (s.fields.map (·.slot inner)) s.forceAlign exact)
    (hdvd : ∀ f ∈ (Declaration.struct s).inlineFields,
      (inner f.type.name).alignment ∣ Wire.wordCount)
    (hforced : ∀ bytes, s.forceAlign = some bytes → bytes ∣ Wire.wordCount)
    (hwords : ∀ f ∈ (Declaration.struct s).inlineFields,
      words f.type.name = (inner f.type.name).wrap) :
    Layout.ofStruct (s.fields.map (·.slot words)) s.forceAlign = exact.wrap := by
  have hslots : (s.fields.map (·.slot inner)).map Extent.wrap = s.fields.map (·.slot words) := by
    have hsame : s.fields.map (·.slot words) = s.fields.map (·.slot fun name => (inner name).wrap) :=
      Resolved.map_slot_congr hwords
    rw [hsame, List.map_map]
    exact List.map_congr_left fun f _ => (Resolved.Field.slot_wrap f).symm
  rw [← hslots]
  exact h.ofStruct_wrap (Resolved.alignment_dvd_of_mem_slots hdvd) hforced

/-- Computed over words, the layout of a table is its layout in words. -/
theorem IsTableLayout.ofTable_slots {t : Resolved.Compound} {discriminant : Primitive}
    (h : IsTableLayout (Resolved.liveSlots discriminant inner t.fields) exact)
    (hdiscriminant : discriminant.isDiscriminant = true)
    (hdvd : ∀ f ∈ (Declaration.table t).inlineFields,
      (inner f.type.name).alignment ∣ Wire.wordCount)
    (hwords : ∀ f ∈ (Declaration.table t).inlineFields,
      words f.type.name = (inner f.type.name).wrap) :
    Layout.ofTable (Resolved.liveSlots discriminant words t.fields) = exact.wrap := by
  have hsame : Resolved.liveSlots discriminant words t.fields =
      Resolved.liveSlots discriminant (fun name => (inner name).wrap) t.fields :=
    Resolved.liveSlots_congr_inline hwords
  rw [hsame, Resolved.liveSlots_wrap]
  exact h.ofTable_wrap (Resolved.tag_alignment_le hdiscriminant)
    (Resolved.alignment_dvd_of_mem_liveSlots hdiscriminant hdvd)

end

/-- Wrapped offsets stand under the same indices. -/
theorem Resolved.Compound.IsIndexed.wrap {t : Resolved.Compound} {layout : Layout}
    (h : t.IsIndexed layout) : t.IsIndexed layout.wrap := by
  obtain ⟨⟨offsets, hoffsets, hfields⟩, htags⟩ := h
  refine ⟨⟨wrapOffsets offsets, ?_, ?_⟩, ?_⟩
  · rw [Layout.wrap, hoffsets, Option.map_some]
  · rwa [map_fst_wrapOffsets]
  · rwa [Layout.wrap, map_fst_wrapOffsets]

/-! ## Sizes that are words -/

theorem Placed.size_le_finish {start finish : Nat} {extents : List Extent} {offsets : List Nat}
    (h : Placed start extents offsets finish) : ∀ e ∈ extents, e.size ≤ finish := by
  induction h with
  | nil start => simp
  | cons _ hrest ih =>
    have hfirst := hrest.start_le_finish
    rw [List.forall_mem_cons]
    exact ⟨by omega, ih⟩

theorem IsStructLayout.size_le {fields : List Extent} {forced : Option Nat} {layout : Layout}
    (h : IsStructLayout fields forced layout) {e : Extent} (he : e ∈ fields) :
    e.size ≤ layout.size := by
  obtain ⟨_, finish, hplaced, hsize⟩ := h.size
  exact le_trans (hplaced.size_le_finish e he) hsize.1.2

theorem IsTableLayout.size_le {slots : List Slot} {layout : Layout}
    (h : IsTableLayout slots layout) {slot : Slot} (hslot : slot ∈ slots) :
    slot.extent.size ≤ layout.size := by
  obtain ⟨_, finish, hplaced, hsize, _⟩ := h.offsets
  exact le_trans (hplaced.size_le_finish _ (List.mem_map_of_mem hslot)) hsize.1.2

theorem le_of_mem_roleOffsets {role : SlotRole} {slots : List Slot} {offsets : List Nat}
    {bound : Nat} (h : ∀ offset ∈ offsets, offset ≤ bound) :
    ∀ entry ∈ roleOffsets role slots offsets, entry.2 ≤ bound := by
  rintro ⟨index, offset⟩ hentry
  obtain ⟨slot, hslot, _⟩ := mem_roleOffsets_iff.mp hentry
  exact h offset (List.of_mem_zip hslot).2

/-- No slot of a table starts behind its end. -/
theorem IsTableLayout.offset_le_size {slots : List Slot} {layout : Layout}
    (h : IsTableLayout slots layout) :
    (∀ offsets, layout.fieldOffsets = some offsets → ∀ entry ∈ offsets, entry.2 ≤ layout.size) ∧
      ∀ entry ∈ layout.tagOffsets, entry.2 ≤ layout.size := by
  obtain ⟨offsets, finish, hplaced, hsize, hfields, htags⟩ := h.offsets
  have hslots : ∀ role, ∀ entry ∈ roleOffsets role slots offsets, entry.2 ≤ layout.size :=
    fun role => le_of_mem_roleOffsets fun offset hoffset =>
      (hplaced.offset_le_finish offset hoffset).trans hsize.1.2
  refine ⟨fun _ hsome => ?_, htags ▸ hslots .tag⟩
  cases hfields.symm.trans hsome
  exact hslots .value

theorem Layout.wrap_eq_self {layout : Layout} (hsize : layout.size < Wire.wordCount)
    (hfields : ∀ offsets, layout.fieldOffsets = some offsets →
      ∀ entry ∈ offsets, entry.2 ≤ layout.size)
    (htags : ∀ entry ∈ layout.tagOffsets, entry.2 ≤ layout.size) : layout.wrap = layout := by
  have hword : ∀ offsets : List (Nat × Nat), (∀ entry ∈ offsets, entry.2 ≤ layout.size) →
      wrapOffsets offsets = offsets :=
    fun _ hle => wrapOffsets_of_lt fun entry hentry => lt_of_le_of_lt (hle entry hentry) hsize
  rw [wrap, Wire.wrap_of_lt hsize, hword _ htags]
  obtain ⟨alignment, size, fieldOffsets, tagOffsets⟩ := layout
  cases fieldOffsets with
  | none => rfl
  | some offsets => rw [Option.map_some, hword _ (hfields offsets rfl)]

/-- The offsets in a table are words if its size is. -/
theorem IsTableLayout.wrap_eq_self {slots : List Slot} {layout : Layout}
    (h : IsTableLayout slots layout) (hsize : layout.size < Wire.wordCount) :
    layout.wrap = layout :=
  Layout.wrap_eq_self hsize h.offset_le_size.1 h.offset_le_size.2

/-- Wrapping leaves a reference layout as it is exactly where its size is a word. -/
theorem ReferenceLayout.wrap_eq_self_iff {declared : TypeName → Option Declaration}
    {discriminant : Primitive} {d : Declaration} {layout : Layout}
    (h : ReferenceLayout declared discriminant d layout) :
    layout.wrap = layout ↔ layout.size < Wire.wordCount := by
  constructor
  · intro hwrap
    exact Wire.wrap_eq_self_iff.mp (congrArg Layout.size hwrap)
  · intro hsize
    cases h with
    | enum e => exact Layout.wrap_eq_self hsize (by simp) (by simp)
    | union u => exact Layout.wrap_eq_self hsize (by simp) (by simp)
    | struct _ _ _ _ hlayout =>
      exact Layout.wrap_eq_self hsize (by simp [hlayout.fieldOffsets]) (by simp [hlayout.tagOffsets])
    | table _ _ _ _ hlayout => exact hlayout.wrap_eq_self hsize

/-! ## Room -/

theorem IsFirstAligned.le_add {alignment start offset : Nat}
    (h : IsFirstAligned alignment start offset) (hpos : 0 < alignment) :
    offset ≤ start + alignment := by
  have hfirst := (isFirstAligned_roundUp start hpos).unique h
  have hle := Nat.div_mul_le_self (start + alignment - 1) alignment
  omega

/-- Bytes for extents that follow each other, with the most padding their alignments can ask for. -/
def Extent.room : List Extent → Nat
  | [] => 0
  | e :: rest => e.alignment + e.size + room rest

theorem Placed.finish_le {start finish : Nat} {extents : List Extent} {offsets : List Nat}
    (h : Placed start extents offsets finish) (hpos : ∀ e ∈ extents, 0 < e.alignment) :
    finish ≤ start + Extent.room extents := by
  induction h with
  | nil start => exact Nat.le_add_right _ _
  | cons hoffset _ ih =>
    rw [List.forall_mem_cons] at hpos
    have hfirst := hoffset.le_add hpos.1
    have hrest := ih hpos.2
    rw [Extent.room]
    omega

theorem IsStructLayout.size_le_room {fields : List Extent} {forced : Option Nat} {layout : Layout}
    (h : IsStructLayout fields forced layout) (hpos : ∀ e ∈ fields, 0 < e.alignment) :
    layout.size ≤ Extent.room fields + layout.alignment := by
  obtain ⟨_, finish, hplaced, hsize⟩ := h.size
  have hfinish := hplaced.finish_le hpos
  have hlast := hsize.le_add (h.alignment.2 (by simp))
  omega

theorem IsTableLayout.size_le_room {slots : List Slot} {layout : Layout}
    (h : IsTableLayout slots layout) (hpos : ∀ slot ∈ slots, 0 < slot.extent.alignment) :
    layout.size ≤ 4 + Extent.room (slots.map (·.extent)) + layout.alignment := by
  obtain ⟨_, finish, hplaced, hsize, _⟩ := h.offsets
  have hfour : 4 ≤ layout.alignment := h.alignment.2 (by simp)
  have hfinish := hplaced.finish_le (List.forall_mem_map.mpr hpos)
  have hlast := hsize.le_add (by omega)
  omega

/-! ## Layouts in words -/

/-- The layout of a declaration in machine words. -/
def WordLayout (declared : TypeName → Option Declaration) (discriminant : Primitive)
    (d : Declaration) (layout : Layout) : Prop :=
  ∃ exact, ReferenceLayout declared discriminant d exact ∧ layout = exact.wrap

theorem WordLayout.union {declared : TypeName → Option Declaration} {discriminant : Primitive}
    (u : Resolved.Union) : WordLayout declared discriminant (.union u)
      (.plain (.ofPrimitive discriminant)) := by
  have hreference := @ReferenceLayout.union declared discriminant u
  refine ⟨_, hreference, (hreference.wrap_eq_self_iff.mpr ?_).symm⟩
  cases discriminant <;> decide

theorem WordLayout.enum {declared : TypeName → Option Declaration} {discriminant : Primitive}
    (e : Resolved.Enum) : WordLayout declared discriminant (.enum e)
      (.plain (.ofPrimitive e.underlying)) := by
  have hreference := @ReferenceLayout.enum declared discriminant e
  refine ⟨_, hreference, (hreference.wrap_eq_self_iff.mpr ?_).symm⟩
  cases e.underlying <;> decide

theorem WordLayout.unique {declared : TypeName → Option Declaration} {discriminant : Primitive}
    {d : Declaration} {layout other : Layout} (h : WordLayout declared discriminant d layout)
    (h' : WordLayout declared discriminant d other) : other = layout := by
  obtain ⟨exact, hexact, rfl⟩ := h
  obtain ⟨exact', hexact', rfl⟩ := h'
  rw [hexact.unique hexact']

end WireSchema
