/-
WireSchema.Proofs.Compiled.Vtable — which compiled tables a vtable can describe.

A vtable stores its own length, the inline length of its table and the offset of every slot, each in two
bytes. As long as nothing overflows a word, slots lie below the inline length
(`IsTableLayout.offset_le_size`), so a table fits exactly when its inline length and its number of fields
do (`Session.compile_fitsVtable_iff`). No rule of a session bounds either: structs held in place
multiply, and a table of five fields is already too long (`Session.crate_beyond_vtable`).
-/
import WireSchema.Proofs.Compiled.Exact

namespace WireSchema

open WireSchema.Outcome
open WireSchema.Resolved (Declaration)

/-- A number that an entry of a vtable can hold. -/
def Wire.IsVOffset (n : Nat) : Prop :=
  n < Nat.pow 2 (8 * voffsetSize)

/-- Everything a vtable says about a table can be stored in it. -/
structure Resolved.Compound.FitsVtable (t : Resolved.Compound) (layout : Layout) : Prop where
  size : Wire.IsVOffset layout.size
  fieldOffsets : ∀ offsets, layout.fieldOffsets = some offsets →
    ∀ entry ∈ offsets, Wire.IsVOffset entry.2
  tagOffsets : ∀ entry ∈ layout.tagOffsets, Wire.IsVOffset entry.2
  vtableSize : Wire.IsVOffset (Wire.vtableSize t.fields.length)

theorem Wire.isVOffset_iff {n : Nat} : IsVOffset n ↔ n < 65536 :=
  Iff.rfl

theorem Wire.IsVOffset.of_le {n bound : Nat} (h : IsVOffset bound) (hle : n ≤ bound) :
    IsVOffset n :=
  Nat.lt_of_le_of_lt hle h

/-- A vtable stores its own length for at most this many fields. -/
theorem Wire.isVOffset_vtableSize_iff {fieldCount : Nat}
    (h : vtableHeaderSize + fieldCount * voffsetSize < wordCount) :
    IsVOffset (vtableSize fieldCount) ↔ fieldCount ≤ 32765 := by
  rw [isVOffset_iff, vtableSize, wrap_of_lt h, vtableHeaderSize, voffsetSize]
  omega

theorem IsTableLayout.fitsVtable_iff {slots : List Slot} {layout : Layout}
    (h : IsTableLayout slots layout) {t : Resolved.Compound}
    (hcount : Wire.vtableHeaderSize + t.fields.length * Wire.voffsetSize < Wire.wordCount) :
    t.FitsVtable layout ↔ layout.size < 65536 ∧ t.fields.length ≤ 32765 := by
  obtain ⟨hfields, htags⟩ := h.offset_le_size
  constructor
  · intro h
    exact ⟨h.size, (Wire.isVOffset_vtableSize_iff hcount).mp h.vtableSize⟩
  · rintro ⟨hsize, hlength⟩
    exact ⟨hsize, fun offsets hoffsets entry hentry => .of_le hsize (hfields _ hoffsets _ hentry),
      fun entry hentry => .of_le hsize (htags entry hentry),
      (Wire.isVOffset_vtableSize_iff hcount).mpr hlength⟩

/-! ## Compiled tables -/

namespace Session

variable {session : Session} {settings : CompilerSettings} {compiled : Compiled}

/-- **Vtables.** A compiled table whose size and whose vtable's size do not overflow can be described by
a vtable exactly when its inline length stays below two to the sixteenth and it has at most 32765
fields. -/
theorem compile_fitsVtable_iff {texts : List (String × String)}
    (hregister : registerTexts {} texts = .ok session)
    (hcompile : session.compile settings = .ok compiled) {key : TypeName}
    {entry : Compiled.TypeEntry} {t : Resolved.Compound}
    (hentry : compiled.get? key = some entry) (htable : entry.declaration = .table t)
    (hfits : compiled.FitsWord (.table t))
    (hcount : Wire.vtableHeaderSize + t.fields.length * Wire.voffsetSize < Wire.wordCount) :
    t.FitsVtable entry.layout ↔ entry.layout.size < 65536 ∧ t.fields.length ≤ 32765 := by
  obtain ⟨declarations, h⟩ :=
    compiles_of_compile (built_of_registerTexts hregister) hcompile
  obtain ⟨d, layout⟩ := entry
  obtain rfl : d = .table t := htable
  exact (h.produces.isTableLayout hentry hfits).fitsVtable_iff hcount

/-- Structs of four structs of four structs, from 256 bytes on, in one table and not in the other. -/
def crateTexts : List (String × String) :=
  [("crate", "struct A (force_align: 256) { x: ubyte; } struct B { a: A; b: A; c: A; d: A; }
      struct C { a: B; b: B; c: B; d: B; } struct D { a: C; b: C; c: C; d: C; }
      table T { a: D; b: D; c: D; d: D; e: ubyte; } table P { x: ubyte; s: string; }")]

def crateSession : Session :=
  ((registerTexts {} crateTexts).toOption).getD {}

/-- The inline length of a table and its number of fields. -/
def tableMeasure? (compiled : Compiled) (name : TypeName) : Option (Nat × Nat) :=
  match compiled.get? name with
  | some ⟨.table t, layout⟩ => some (layout.size, t.fields.length)
  | _ => none

theorem exists_table_of_measure {name : TypeName} {size count : Nat}
    (h : tableMeasure? compiled name = some (size, count)) :
    ∃ entry t, compiled.get? name = some entry ∧ entry.declaration = .table t ∧
      entry.layout.size = size ∧ t.fields.length = count := by
  unfold tableMeasure? at h
  split at h
  · rename_i t layout hentry
    cases h
    exact ⟨_, t, hentry, rfl, rfl, rfl⟩
  · cases h

theorem exists_compiled_crate :
    registerTexts {} crateTexts = .ok crateSession ∧ ∃ compiled,
      crateSession.compile {} = .ok compiled ∧
      tableMeasure? compiled ⟨[], "T"⟩ = some (66048, 5) ∧
      tableMeasure? compiled ⟨[], "P"⟩ = some (12, 2) ∧ compiled.HasRoom := by
  obtain ⟨hregisters, hcompiles⟩ : (registerTexts {} crateTexts).toOption.isSome = true ∧
      ((crateSession.compile {}).toOption.map fun compiled =>
        (tableMeasure? compiled ⟨[], "T"⟩, tableMeasure? compiled ⟨[], "P"⟩,
          decide compiled.HasRoom)) = some (some (66048, 5), some (12, 2), true) := by
    decide +kernel
  obtain ⟨compiled, hcompiled, hmeasures⟩ := Option.map_eq_some_iff.mp hcompiles
  simp only [Prod.mk.injEq, decide_eq_true_eq] at hmeasures
  exact ⟨eq_ok_getD hregisters, compiled, eq_ok_of_toOption hcompiled, hmeasures⟩

theorem crate_fitsVtable :
    registerTexts {} crateTexts = .ok crateSession ∧ ∃ compiled entry t,
      crateSession.compile {} = .ok compiled ∧ compiled.get? ⟨[], "P"⟩ = some entry ∧
      entry.declaration = .table t ∧ compiled.FitsWord (.table t) ∧ t.FitsVtable entry.layout := by
  obtain ⟨hregister, compiled, hcompile, _, hmeasure, hroom⟩ := exists_compiled_crate
  obtain ⟨entry, t, hentry, htable, hsize, hcount⟩ := exists_table_of_measure hmeasure
  have hfits := fitsWord_of_compile hcompile hroom hentry
  rw [htable] at hfits
  refine ⟨hregister, compiled, entry, t, hcompile, hentry, htable, hfits, ?_⟩
  exact (compile_fitsVtable_iff hregister hcompile hentry htable hfits (by rw [hcount]; decide)).mpr
    ⟨by omega, by omega⟩

/-- A compiled table of five fields that no vtable can describe. -/
theorem crate_beyond_vtable :
    registerTexts {} crateTexts = .ok crateSession ∧ ∃ compiled entry t,
      crateSession.compile {} = .ok compiled ∧ compiled.get? ⟨[], "T"⟩ = some entry ∧
      entry.declaration = .table t ∧ entry.layout.size = 66048 ∧
      ¬ t.FitsVtable entry.layout := by
  obtain ⟨hregister, compiled, hcompile, hmeasure, _⟩ := exists_compiled_crate
  obtain ⟨entry, t, hentry, htable, hsize, _⟩ := exists_table_of_measure hmeasure
  refine ⟨hregister, compiled, entry, t, hcompile, hentry, htable, hsize, fun hfits => ?_⟩
  have hlimit := Wire.isVOffset_iff.mp hfits.size
  omega

end Session

end WireSchema
