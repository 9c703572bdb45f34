/-
WireSchema.Proofs.Compiled.Evolution — fields added at the end of a table move no older slot.

Slots are placed one after the other, so what comes behind does not reach back: of slots placed
together the first ones stand where they would stand alone (`Placed.of_append`). Fields in front keep
their indices, and the slots of later fields carry later ones (`Resolved.exists_liveSlots_append`).
The alignment can only grow; since all alignments are powers of two, the greater one is a multiple of
the smaller, and so the padded size cannot shrink (`IsFirstAligned.le_of_dvd`). Offsets and sizes are
kept in words, though: the offsets of the first table are those of the second in any case
(`Compound.KeepsOffsets`), but the added ones need not lie behind, and the size may shrink, if the second
table does not fit a word (`Session.ladder_shrinks`).

Main statement: `Session.compile_table_extends`.
-/
import WireSchema.Proofs.Compiled.Tables

namespace WireSchema

open WireSchema.Outcome
open WireSchema.Resolved (Declaration)

/-! ## Slots behind slots -/

/-- The slots behind others start where those end. -/
theorem Placed.of_append {front back : List Extent} {start finish : Nat} {offsets : List Nat}
    (h : Placed start (front ++ back) offsets finish) :
    ∃ first second middle, offsets = first ++ second ∧ Placed start front first middle ∧
      Placed middle back second finish := by
  induction front generalizing start offsets with
  | nil => exact ⟨[], offsets, start, rfl, .nil start, h⟩
  | cons e rest ih =>
    cases h with
    | cons hoffset hrest =>
      obtain ⟨first, second, middle, rfl, hfront, hback⟩ := ih hrest
      exact ⟨_ :: first, second, middle, rfl, .cons hoffset hfront, hback⟩

theorem roleOffsets_append (role : SlotRole) {front back : List Slot} {first second : List Nat}
    (h : front.length = first.length) : roleOffsets role (front ++ back) (first ++ second) =
      roleOffsets role front first ++ roleOffsets role back second := by
  rw [roleOffsets, List.zip_append h, List.filter_append, List.map_append]
  rfl

/-- Added fields add slots of their own indices behind the others. -/
theorem Resolved.exists_liveSlots_append (discriminant : Primitive) (inner : TypeName → Layout)
    (fields more : List Resolved.Field) :
    ∃ added, liveSlots discriminant inner (fields ++ more) =
        liveSlots discriminant inner fields ++ added ∧
      ∀ slot ∈ added, fields.length ≤ slot.index ∧ slot.index < (fields ++ more).length := by
  refine ⟨((more.zipIdx fields.length).filter fun entry => !entry.1.isDeprecated).flatMap
    fun entry => entry.1.slots discriminant inner entry.2, ?_, fun slot hslot => ?_⟩
  · rw [liveSlots, List.zipIdx_append, List.filter_append, List.flatMap_append, Nat.zero_add]
    rfl
  · obtain ⟨⟨f, index⟩, hentry, hmem⟩ := List.mem_flatMap.mp hslot
    obtain ⟨hle, hlt, _⟩ := List.mem_zipIdx (List.mem_filter.mp hentry).1
    rw [Field.index_of_mem_slots hmem, List.length_append]
    exact ⟨hle, hlt⟩

/-! ## Layouts behind layouts -/

/-- Added slots can only raise the alignment. -/
theorem IsTableLayout.alignment_le_of_append {slots added : List Slot} {layout layout' : Layout}
    (h : IsTableLayout slots layout) (h' : IsTableLayout (slots ++ added) layout') :
    layout.alignment ≤ layout'.alignment := by
  rcases h.alignment.1 with hleast | ⟨slot, hslot, halign⟩
  · exact h'.alignment.2 (.inl hleast)
  · exact h'.alignment.2 (.inr ⟨slot, List.mem_append_left _ hslot, halign⟩)

/-- Padded to a multiple of the alignment, what ends later is not smaller. -/
theorem IsFirstAligned.le_of_dvd {alignment alignment' finish finish' size size' : Nat}
    (h : IsFirstAligned alignment finish size) (h' : IsFirstAligned alignment' finish' size')
    (hdvd : alignment ∣ alignment') (hle : finish ≤ finish') : size ≤ size' :=
  h.2 ⟨hdvd.trans h'.1.1, hle.trans h'.1.2⟩

namespace Resolved.Compound

section

variable (t t' : Compound) (discriminant : Primitive) (inner : TypeName → Layout)

/-- An offset of a field that only the second table has, behind all slots of the first one. -/
structure IsAdded (layout : Layout) (entry : Nat × Nat) : Prop where
  index : t.fields.length ≤ entry.1 ∧ entry.1 < t'.fields.length
  behind : ∀ slot offset, t.SlotAt discriminant inner layout slot offset →
    offset + slot.extent.size ≤ entry.2

/-- The second table has the slots of the first one where they were, and its own behind them. -/
structure ExtendsTo (layout layout' : Layout) : Prop where
  fieldOffsets : ∃ offsets added, layout.fieldOffsets = some offsets ∧
    layout'.fieldOffsets = some (offsets ++ added) ∧
      ∀ entry ∈ added, t.IsAdded t' discriminant inner layout entry
  tagOffsets : ∃ added, layout'.tagOffsets = layout.tagOffsets ++ added ∧
    ∀ entry ∈ added, t.IsAdded t' discriminant inner layout entry
  alignment : layout.alignment ≤ layout'.alignment
  size : layout.size ≤ layout'.size

end

/-- The second table has the offsets of the first one, and its own under later indices. -/
structure KeepsOffsets (t t' : Compound) (layout layout' : Layout) : Prop where
  fieldOffsets : ∃ offsets added, layout.fieldOffsets = some offsets ∧
    layout'.fieldOffsets = some (offsets ++ added) ∧
      ∀ entry ∈ added, t.fields.length ≤ entry.1 ∧ entry.1 < t'.fields.length
  tagOffsets : ∃ added, layout'.tagOffsets = layout.tagOffsets ++ added ∧
    ∀ entry ∈ added, t.fields.length ≤ entry.1 ∧ entry.1 < t'.fields.length
  alignment : layout.alignment ≤ layout'.alignment

/-- What is kept in numbers without bound is kept in words. -/
theorem ExtendsTo.keepsOffsets_wrap {t t' : Compound} {discriminant : Primitive}
    {inner : TypeName → Layout} {layout layout' : Layout}
    (h : t.ExtendsTo t' discriminant inner layout layout') :
    t.KeepsOffsets t' layout.wrap layout'.wrap := by
  obtain ⟨⟨offsets, added, hfields, hfields', hadded⟩, ⟨addedTags, htags', haddedTags⟩, halign, _⟩ := h
  have hindex : ∀ {entries : List (Nat × Nat)},
      (∀ entry ∈ entries, t.IsAdded t' discriminant inner layout entry) →
      ∀ entry ∈ wrapOffsets entries, t.fields.length ≤ entry.1 ∧ entry.1 < t'.fields.length := by
    intro entries hentries
    exact List.forall_mem_map.mpr fun entry hentry => (hentries entry hentry).index
  refine ⟨⟨wrapOffsets offsets, wrapOffsets added, ?_, ?_, hindex hadded⟩,
    ⟨wrapOffsets addedTags, ?_, hindex haddedTags⟩, halign⟩
  · rw [Layout.wrap, hfields, Option.map_some]
  · rw [Layout.wrap, hfields', Option.map_some, wrapOffsets_append]
  · rw [Layout.wrap, htags', wrapOffsets_append, Layout.wrap]

theorem extendsTo_of_append {t t' : Compound} {discriminant : Primitive}
    {inner : TypeName → Layout} {added : List Slot} {layout layout' : Layout}
    (h : IsTableLayout (liveSlots discriminant inner t.fields) layout)
    (h' : IsTableLayout (liveSlots discriminant inner t.fields ++ added) layout')
    (hadded : ∀ slot ∈ added, t.fields.length ≤ slot.index ∧ slot.index < t'.fields.length)
    (hdvd : layout.alignment ∣ layout'.alignment) :
    t.ExtendsTo t' discriminant inner layout layout' := by
  obtain ⟨offsets, finish, hplaced, hsize, hfields, htags⟩ := h.offsets
  obtain ⟨_, finish', hplaced', hsize', hfields', htags'⟩ := h'.offsets
  rw [List.map_append] at hplaced'
  obtain ⟨first, second, middle, rfl, hfront, hback⟩ := hplaced'.of_append
  obtain ⟨rfl, rfl⟩ := hplaced.unique hfront
  have hlength : (liveSlots discriminant inner t.fields).length = offsets.length := by
    simpa using hplaced.length_eq
  have hnew : ∀ role, ∀ entry ∈ roleOffsets role added second,
      t.IsAdded t' discriminant inner layout entry := by
    intro role entry hentry
    obtain ⟨slot, hslot, _, hindex⟩ := mem_roleOffsets_iff.mp hentry
    refine ⟨hindex ▸ hadded slot (List.of_mem_zip hslot).1, fun other place hother => ?_⟩
    -- the old slots end before the first added one can start
    have hold := (IsTableLayout.slotAt_iff hfields htags).mp hother
    have hends := (IsTableLayout.bounds hplaced hold).2.2
    exact hends.trans (IsTableLayout.bounds hback hslot).2.1
  refine ⟨⟨_, _, hfields, ?_, hnew .value⟩, ⟨_, ?_, hnew .tag⟩, ?_, ?_⟩
  · rw [hfields', roleOffsets_append _ hlength]
  · rw [htags', htags, roleOffsets_append _ hlength]
  · exact h.alignment_le_of_append h'
  · exact hsize.le_of_dvd hsize' hdvd hback.start_le_finish

end Resolved.Compound

/-! ## Compiled sessions -/

namespace Session

/-- **Evolution.** Let a table be compiled in two sessions under one discriminant, the second time
with fields added at the end, and let the types that the fields in use of the first table hold in
place have equal layouts. Then every offset of the first table is one of the second, what is added
belongs to added fields, and the alignment does not get smaller. Unless the size of the second table
overflows, what is added lies behind the slots of the first, and the size does not get smaller. -/
theorem compile_table_extends {session session' : Session} {settings settings' : CompilerSettings}
    {compiled compiled' : Compiled} (hcompile : session.compile settings = .ok compiled)
    (hcompile' : session'.compile settings' = .ok compiled')
    (hdiscriminant : compiled.unionDiscriminant = compiled'.unionDiscriminant) {name : TypeName}
    {t t' : Resolved.Compound} {layout layout' : Layout}
    (hentry : compiled.get? name = some ⟨.table t, layout⟩)
    (hentry' : compiled'.get? name = some ⟨.table t', layout'⟩) (hfields : t.fields <+: t'.fields)
    (hinner : ∀ f ∈ t.fields, f.isDeprecated = false → f.isInline = true →
      compiled.layout? f.type.name = compiled'.layout? f.type.name) :
    t.KeepsOffsets t' layout layout' ∧
      (compiled'.FitsWord (.table t') →
        t.ExtendsTo t' compiled.unionDiscriminant compiled.layoutD layout layout') := by
  obtain ⟨declarations, h⟩ := produces_of_compile hcompile
  obtain ⟨declarations', h'⟩ := produces_of_compile hcompile'
  have hpower := (h.isPowerOfTwo_alignment hentry).1
  have hpower' := (h'.isPowerOfTwo_alignment hentry').1
  obtain ⟨base, hbase, rfl⟩ := h.exists_isTableLayout hentry
  obtain ⟨base', hbase', rfl⟩ := h'.exists_isTableLayout hentry'
  have hsize' : compiled'.FitsWord (.table t') → base'.size < Wire.wordCount := fun hfits => by
    rw [← hbase'.unique (h'.isTableLayout hentry' hfits)]
    exact Wire.wrap_lt _
  obtain ⟨more, hmore⟩ := hfields
  obtain ⟨added, hslots, hadded⟩ := Resolved.exists_liveSlots_append
    compiled'.unionDiscriminant compiled'.layoutD t.fields more
  have hsame : Resolved.liveSlots compiled'.unionDiscriminant compiled'.layoutD t.fields =
      Resolved.liveSlots compiled.unionDiscriminant compiled.layoutD t.fields := by
    rw [← hdiscriminant]
    refine Resolved.liveSlots_congr fun f hf hlive hinline => ?_
    rw [Compiled.layoutD, Compiled.layoutD, hinner f hf hlive hinline]
  rw [← hmore, hslots, hsame] at hbase'
  rw [hmore] at hadded
  have hextends : t.ExtendsTo t' compiled.unionDiscriminant compiled.layoutD base base' :=
    Resolved.Compound.extendsTo_of_append hbase hbase' hadded
      (dvd_of_isPowerOfTwo_of_le hpower hpower' (hbase.alignment_le_of_append hbase'))
  refine ⟨hextends.keepsOffsets_wrap, fun hfits => ?_⟩
  -- the second layout is exact then, and the first one is no larger
  rw [hbase'.wrap_eq_self (hsize' hfits),
    hbase.wrap_eq_self (hextends.size.trans_lt (hsize' hfits))]
  exact hextends

/-- A table with a deprecated field, a union and a struct, and one byte at the end. -/
def hullTexts : List (String × String) :=
  [("hull", "struct Plate (force_align: 8) { width: short; } table Rivet {} union Part { Rivet }
      table Hull { old: int (deprecated); part: Part; plate: Plate; deck: ubyte; }")]

/-- The same table with a second union and one more byte. -/
def refitTexts : List (String × String) :=
  [("hull", "struct Plate (force_align: 8) { width: short; } table Rivet {} union Part { Rivet }
      table Hull { old: int (deprecated); part: Part; plate: Plate; deck: ubyte; next: Part;
        spare: ubyte; }")]

def hullSession : Session :=
  ((registerTexts {} hullTexts).toOption).getD {}

def refitSession : Session :=
  ((registerTexts {} refitTexts).toOption).getD {}

/-- The table with its first fields and some more. -/
def hull (more : List Resolved.Field) : Resolved.Compound where
  name := ⟨[], "Hull"⟩
  fields := [⟨"old", ⟨⟨[], "int"⟩, .primitive .int⟩, false, none, [.deprecated]⟩,
    ⟨"part", ⟨⟨[], "Part"⟩, .union⟩, false, none, []⟩,
    ⟨"plate", ⟨⟨[], "Plate"⟩, .struct⟩, false, none, []⟩,
    ⟨"deck", ⟨⟨[], "ubyte"⟩, .primitive .ubyte⟩, false, none, []⟩] ++ more
  metadata := []
  forceAlign := none

def refitFields : List Resolved.Field :=
  [⟨"next", ⟨⟨[], "Part"⟩, .union⟩, false, none, []⟩,
   ⟨"spare", ⟨⟨[], "ubyte"⟩, .primitive .ubyte⟩, false, none, []⟩]

theorem hull_extendsTo_refit :
    ∃ compiled compiled' layout layout', hullSession.compile {} = .ok compiled ∧
      refitSession.compile {} = .ok compiled' ∧
      compiled.get? ⟨[], "Hull"⟩ = some ⟨.table (hull []), layout⟩ ∧
      compiled'.get? ⟨[], "Hull"⟩ = some ⟨.table (hull refitFields), layout'⟩ ∧
      compiled'.FitsWord (.table (hull refitFields)) ∧
      (hull []).ExtendsTo (hull refitFields) .ubyte compiled.layoutD layout layout' := by
  obtain ⟨hcompiles, hrefits⟩ :
      ((hullSession.compile {}).toOption.map fun compiled => (compiled.unionDiscriminant,
          compiled.layout? ⟨[], "Plate"⟩, compiled.get? ⟨[], "Hull"⟩)) =
        some (.ubyte, some ⟨8, 8, none, []⟩, some ⟨.table (hull []),
          ⟨8, 32, some [(1, 8), (2, 16), (3, 24)], [(1, 4)]⟩⟩) ∧
      ((refitSession.compile {}).toOption.map fun compiled => (compiled.unionDiscriminant,
          compiled.layout? ⟨[], "Plate"⟩, compiled.get? ⟨[], "Hull"⟩, decide compiled.HasRoom)) =
        some (.ubyte, some ⟨8, 8, none, []⟩, some ⟨.table (hull refitFields),
          ⟨8, 40, some [(1, 8), (2, 16), (3, 24), (4, 28), (5, 32)], [(1, 4), (4, 25)]⟩⟩,
          true) := by
    decide +kernel
  obtain ⟨compiled, hcompiled, hfacts⟩ := Option.map_eq_some_iff.mp hcompiles
  obtain ⟨compiled', hcompiled', hfacts'⟩ := Option.map_eq_some_iff.mp hrefits
  simp only [Prod.mk.injEq, decide_eq_true_eq] at hfacts hfacts'
  obtain ⟨hdiscriminant, hplate, hentry⟩ := hfacts
  obtain ⟨hdiscriminant', hplate', hentry', hroom⟩ := hfacts'
  have hcompile := eq_ok_of_toOption hcompiled
  have hcompile' := eq_ok_of_toOption hcompiled'
  have hinline : ∀ f ∈ (hull []).fields, f.isDeprecated = false → f.isInline = true →
      f.type.name = ⟨[], "Plate"⟩ := by decide
  have hfits := fitsWord_of_compile hcompile' hroom hentry'
  refine ⟨compiled, compiled', _, _, hcompile, hcompile', hentry, hentry', hfits,
    hdiscriminant ▸ ?_⟩
  refine (compile_table_extends hcompile hcompile' (hdiscriminant.trans hdiscriminant'.symm) hentry
    hentry' ⟨refitFields, rfl⟩ fun f hf hlive hinner => ?_).2 hfits
  rw [hinline f hf hlive hinner, hplate, hplate']

/-- Fields that hold the rung of two to the sixty-second bytes. -/
def mastFields (names : List String) : List Symbol.Field :=
  names.map (plainField · "b")

/-- Two such fields are two to the sixty-third bytes and more. With two more of them, the size of the
table is back at its alignment. -/
theorem ladder_shrinks : ∃ compiled compiled' layout layout',
    (ladderSession [⟨"Mast", ⟨1, 1⟩, mastFields ["p", "q"], []⟩]).compile {} = .ok compiled ∧
    (ladderSession [⟨"Mast", ⟨1, 1⟩, mastFields ["p", "q", "r", "s"], []⟩]).compile {} =
      .ok compiled' ∧
    compiled.layout? ⟨[], "b"⟩ = compiled'.layout? ⟨[], "b"⟩ ∧
    compiled.layout? ⟨[], "Mast"⟩ = some layout ∧ compiled'.layout? ⟨[], "Mast"⟩ = some layout' ∧
    layout.size = 9223372036854776064 ∧ layout'.size = 256 := by
  obtain ⟨hcompiles, hcompiles'⟩ :
      (((ladderSession [⟨"Mast", ⟨1, 1⟩, mastFields ["p", "q"], []⟩]).compile {}).toOption.map
        fun compiled => (compiled.layout? ⟨[], "b"⟩, (compiled.layout? ⟨[], "Mast"⟩).map (·.size))) =
        some (some ⟨256, 4611686018427387904, none, []⟩, some 9223372036854776064) ∧
      (((ladderSession [⟨"Mast", ⟨1, 1⟩, mastFields ["p", "q", "r", "s"], []⟩]).compile
        {}).toOption.map
        fun compiled => (compiled.layout? ⟨[], "b"⟩, (compiled.layout? ⟨[], "Mast"⟩).map (·.size))) =
        some (some ⟨256, 4611686018427387904, none, []⟩, some 256) := by
    decide +kernel
  obtain ⟨compiled, hcompiled, hfacts⟩ := Option.map_eq_some_iff.mp hcompiles
  obtain ⟨compiled', hcompiled', hfacts'⟩ := Option.map_eq_some_iff.mp hcompiles'
  obtain ⟨hrung, hmast⟩ := Prod.mk.inj hfacts
  obtain ⟨hrung', hmast'⟩ := Prod.mk.inj hfacts'
  obtain ⟨layout, hlayout, hsize⟩ := Option.map_eq_some_iff.mp hmast
  obtain ⟨layout', hlayout', hsize'⟩ := Option.map_eq_some_iff.mp hmast'
  exact ⟨compiled, compiled', layout, layout', eq_ok_of_toOption hcompiled,
    eq_ok_of_toOption hcompiled', hrung.trans hrung'.symm, hlayout, hlayout', hsize, hsize'⟩

end Session

end WireSchema
