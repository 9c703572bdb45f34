/-
WireSchema.Proofs.Compiled.Exact — the layouts of a compiled session and the exact ones behind them.

A compiled session keeps its layouts in machine words. Behind each of them stands an exact layout
(`Compiled.ExactLayout`), of which it is the word (`Produces.exists_exactLayout`). A type fits a word if
its exact size does (`Compiled.FitsWord`). Then its layout is exact, and so are those of the types it
holds in place, which are no larger (`Produces.isStructLayout`, `Produces.isTableLayout`). That no sum
over slots overflows is enough for every type to fit (`Produces.fitsWord_of_hasRoom`).
-/
import WireSchema.Proofs.Compiled.Stages

namespace WireSchema

open WireSchema.Outcome
open WireSchema.Resolved (Declaration)

/-! ## Exact layouts -/

namespace Compiled

/-- The declaration of a type by name. -/
def declaration? (compiled : Compiled) (name : TypeName) : Option Declaration :=
  (compiled.get? name).map (·.declaration)

/-- The layout of a type by name; an empty one for a name without type. -/
def layoutD (compiled : Compiled) (name : TypeName) : Layout :=
  (compiled.layout? name).getD (.plain ⟨0, 1⟩)

/-- The layout of a declaration by the rules, in numbers without bound. -/
def ExactLayout (compiled : Compiled) (d : Declaration) (exact : Layout) : Prop :=
  ReferenceLayout compiled.declaration? compiled.unionDiscriminant d exact

/-- The exact size of a declaration is a machine word. -/
def FitsWord (compiled : Compiled) (d : Declaration) : Prop :=
  ∃ exact, compiled.ExactLayout d exact ∧ exact.size < Wire.wordCount

/-- What a declaration places one after the other. -/
def extents (compiled : Compiled) : Declaration → List Extent
  | .enum _ | .union _ => []
  | .struct s => s.fields.map (·.slot compiled.layoutD)
  | .table t => (Resolved.liveSlots compiled.unionDiscriminant compiled.layoutD t.fields).map
      (·.extent)

/-- Bytes that are enough for a type. -/
def room (compiled : Compiled) (entry : TypeEntry) : Nat :=
  Wire.soffsetSize + Extent.room (compiled.extents entry.declaration) + entry.layout.alignment

/-- No type can need more bytes than a word counts. -/
def HasRoom (compiled : Compiled) : Prop :=
  ∀ entry ∈ compiled.types.values, compiled.room entry < Wire.wordCount

instance (compiled : Compiled) : Decidable compiled.HasRoom :=
  inferInstanceAs (Decidable (∀ entry ∈ compiled.types.values, _))

theorem layoutD_of_get? {compiled : Compiled} {name : TypeName} {entry : TypeEntry}
    (h : compiled.get? name = some entry) : compiled.layoutD name = entry.layout := by
  rw [get?] at h
  simp [layoutD, layout?, h]

end Compiled

/-- A type held in place has a layout of its own, which is no larger. -/
theorem ReferenceLayout.exists_inner {declared : TypeName → Option Declaration}
    {discriminant : Primitive} {d : Declaration} {layout : Layout}
    (h : ReferenceLayout declared discriminant d layout) {f : Resolved.Field}
    (hf : f ∈ d.inlineFields) :
    ∃ type inner, declared f.type.name = some type ∧
      ReferenceLayout declared discriminant type inner ∧ inner.size ≤ layout.size := by
  cases h with
  | enum e => cases hf
  | union u => cases hf
  | struct inner type htype hinner hlayout =>
    obtain ⟨hmem, hinline⟩ := List.mem_filter.mp hf
    refine ⟨_, _, htype f hf, hinner f hf, ?_⟩
    have hle := hlayout.size_le (List.mem_map_of_mem hmem)
    rwa [Resolved.Field.slot_of_isInline hinline] at hle
  | table inner type htype hinner hlayout =>
    obtain ⟨hmem, hneeded⟩ := List.mem_filter.mp hf
    obtain ⟨hlive, hinline⟩ := Bool.and_eq_true_iff.mp hneeded
    refine ⟨_, _, htype f hf, hinner f hf, ?_⟩
    obtain ⟨index, hindex⟩ := List.mem_iff_getElem?.mp hmem
    have hle := hlayout.size_le (Resolved.mem_liveSlots_iff.mpr ⟨index, f, hindex, by simpa using hlive,
      Resolved.Field.mem_slots_iff.mpr (.inr rfl)⟩)
    rwa [Resolved.Field.slot_of_isInline hinline] at hle

namespace Session.Produces

variable {session : Session} {settings : CompilerSettings} {compiled : Compiled}
  {declarations : OrderedMap TypeName Declaration}
  (h : session.Produces settings declarations compiled)

include h

theorem declaration?_eq : compiled.declaration? = declarations.get? := by
  funext name
  ext d
  rw [Compiled.declaration?, Option.map_eq_some_iff]
  constructor
  · rintro ⟨entry, hentry, rfl⟩
    exact ((h.get?_iff name entry).mp hentry).1
  · intro hd
    obtain ⟨entry, hentry, rfl⟩ := h.exists_entry hd
    exact ⟨entry, hentry, rfl⟩

/-- Every entry has its exact layout in machine words. -/
theorem exists_exactLayout {name : TypeName} {entry : Compiled.TypeEntry}
    (hentry : compiled.get? name = some entry) :
    ∃ exact, compiled.ExactLayout entry.declaration exact ∧ entry.layout = exact.wrap := by
  obtain ⟨_, hlayout⟩ := (h.get?_iff name entry).mp hentry
  rwa [← h.declaration?_eq] at hlayout

theorem layoutD_eq {name : TypeName} {d : Declaration} (hd : compiled.declaration? name = some d)
    {exact : Layout} (hexact : compiled.ExactLayout d exact) :
    compiled.layoutD name = exact.wrap := by
  obtain ⟨entry, hentry, rfl⟩ := Option.map_eq_some_iff.mp hd
  obtain ⟨exact', hexact', hlayout⟩ := h.exists_exactLayout hentry
  rw [Compiled.layoutD_of_get? hentry, hlayout, hexact.unique hexact']

/-- The rules leave powers of two for all alignments. -/
theorem isPowerOfTwo_alignment {name : TypeName} {entry : Compiled.TypeEntry}
    (hentry : compiled.get? name = some entry) :
    entry.layout.alignment.isPowerOfTwo ∧ entry.layout.alignment ≤ 256 := by
  obtain ⟨exact, hexact, hlayout⟩ := h.exists_exactLayout hentry
  rw [hlayout]
  refine hexact.alignment_induction (P := fun a => a.isPowerOfTwo ∧ a ≤ 256) ?_ ?_
    (Option.map_eq_some_iff.mpr ⟨entry, hentry, rfl⟩)
  · intro p
    cases p <;> exact ⟨by decide, by decide⟩
  · intro name s bytes hs hbytes
    rw [h.declaration?_eq] at hs
    exact Resolved.forceAlign_of_rules h.declarations_eq h.rules hs hbytes

theorem isDiscriminant : compiled.unionDiscriminant.isDiscriminant = true :=
  Rules.isDiscriminant_of_settings h.discriminant

theorem alignsToWords : LayoutCache.AlignsToWords compiled.declaration? :=
  h.declaration?_eq ▸ Resolved.alignsToWords_of_rules h.declarations_eq h.rules

theorem alignment_dvd_wordCount {name : TypeName} {entry : Compiled.TypeEntry}
    (hentry : compiled.get? name = some entry) : entry.layout.alignment ∣ Wire.wordCount := by
  obtain ⟨hpower, hle⟩ := h.isPowerOfTwo_alignment hentry
  exact dvd_of_isPowerOfTwo_of_le hpower ⟨64, rfl⟩ (hle.trans (by decide))

/-! ## Layouts from layouts -/

theorem alignment_dvd_of_inner {d : Declaration} {inner : TypeName → Layout}
    {type : TypeName → Declaration}
    (htype : ∀ f ∈ d.inlineFields, compiled.declaration? f.type.name = some (type f.type.name))
    (hinner : ∀ f ∈ d.inlineFields,
      compiled.ExactLayout (type f.type.name) (inner f.type.name)) :
    ∀ f ∈ d.inlineFields, (inner f.type.name).alignment ∣ Wire.wordCount :=
  fun f hf => h.alignsToWords.alignment_dvd (htype f hf) (hinner f hf)

/-- The layout of a struct is computed from those of the types it holds in place. -/
theorem layout_eq_ofStruct {name : TypeName} {s : Resolved.Compound} {layout : Layout}
    (hentry : compiled.get? name = some ⟨.struct s, layout⟩) :
    layout = .ofStruct (s.fields.map (·.slot compiled.layoutD)) s.forceAlign := by
  obtain ⟨exact, hexact, hlayout⟩ := h.exists_exactLayout hentry
  have hd : compiled.declaration? name = some (.struct s) :=
    Option.map_eq_some_iff.mpr ⟨_, hentry, rfl⟩
  cases hexact with
  | struct inner type htype hinner hstruct =>
    exact hlayout.trans (hstruct.ofStruct_slots (h.alignment_dvd_of_inner htype hinner)
      (fun bytes => h.alignsToWords name s bytes hd)
      fun f hf => h.layoutD_eq (htype f hf) (hinner f hf)).symm

/-- The layout of a table is computed from those of the types it holds in place. -/
theorem layout_eq_ofTable {name : TypeName} {t : Resolved.Compound} {layout : Layout}
    (hentry : compiled.get? name = some ⟨.table t, layout⟩) : layout =
      .ofTable (Resolved.liveSlots compiled.unionDiscriminant compiled.layoutD t.fields) := by
  obtain ⟨exact, hexact, hlayout⟩ := h.exists_exactLayout hentry
  cases hexact with
  | table inner type htype hinner htable =>
    exact hlayout.trans (htable.ofTable_slots h.isDiscriminant
      (h.alignment_dvd_of_inner htype hinner)
      fun f hf => h.layoutD_eq (htype f hf) (hinner f hf)).symm

/-- What a declaration holds in place is compiled too. -/
theorem exists_entry_of_inline {name : TypeName} {entry : Compiled.TypeEntry}
    (hentry : compiled.get? name = some entry) {f : Resolved.Field}
    (hf : f ∈ entry.declaration.inlineFields) :
    ∃ inner, compiled.get? f.type.name = some inner := by
  obtain ⟨_, hexact, _⟩ := h.exists_exactLayout hentry
  obtain ⟨_, _, htype, _⟩ := hexact.exists_inner hf
  obtain ⟨inner, hinner, _⟩ := Option.map_eq_some_iff.mp htype
  exact ⟨inner, hinner⟩

theorem wrap_layoutD (name : TypeName) :
    (compiled.layoutD name).wrap = compiled.layoutD name := by
  cases hname : compiled.get? name with
  | some entry =>
    obtain ⟨exact, _, hlayout⟩ := h.exists_exactLayout hname
    rw [Compiled.layoutD_of_get? hname, hlayout, Layout.wrap_wrap]
  | none =>
    have hnone : compiled.layout? name = none := Option.map_eq_none_iff.mpr hname
    rw [Compiled.layoutD, hnone]
    rfl

/-- Over the layouts that were computed, the layout of a table is the exact one in words. -/
theorem exists_isTableLayout {name : TypeName} {t : Resolved.Compound} {layout : Layout}
    (hentry : compiled.get? name = some ⟨.table t, layout⟩) :
    ∃ base, IsTableLayout (Resolved.liveSlots compiled.unionDiscriminant compiled.layoutD t.fields)
      base ∧ layout = base.wrap := by
  have hdvd : ∀ f ∈ (Declaration.table t).inlineFields,
      (compiled.layoutD f.type.name).alignment ∣ Wire.wordCount := by
    intro f hf
    obtain ⟨inner, hinner⟩ := h.exists_entry_of_inline hentry hf
    rw [Compiled.layoutD_of_get? hinner]
    exact h.alignment_dvd_wordCount hinner
  have hslots := Resolved.alignment_dvd_of_mem_liveSlots h.isDiscriminant hdvd
  obtain ⟨base, hbase⟩ := WireSchema.exists_isTableLayout
    (Resolved.tag_alignment_le h.isDiscriminant)
    fun slot hslot => Nat.pos_of_dvd_of_pos (hslots slot hslot) (by decide)
  refine ⟨base, hbase, (h.layout_eq_ofTable hentry).trans ?_⟩
  exact hbase.ofTable_slots h.isDiscriminant hdvd fun f _ => (h.wrap_layoutD f.type.name).symm

/-- The size of a struct is a multiple of its alignment. -/
theorem alignment_dvd_size {name : TypeName} {s : Resolved.Compound} {layout : Layout}
    (hentry : compiled.get? name = some ⟨.struct s, layout⟩) : layout.alignment ∣ layout.size := by
  have hword := h.alignment_dvd_wordCount hentry
  obtain ⟨exact, hexact, hlayout⟩ := h.exists_exactLayout hentry
  obtain rfl : layout = exact.wrap := hlayout
  cases hexact with
  | struct _ _ _ _ hstruct =>
    obtain ⟨_, _, _, hsize⟩ := hstruct.size
    exact (Wire.dvd_wrap_iff hword).mpr hsize.1.1

/-- The layout of a type that fits a word is exact. -/
theorem exactLayout_of_fitsWord {name : TypeName} {entry : Compiled.TypeEntry}
    (hentry : compiled.get? name = some entry) (hfits : compiled.FitsWord entry.declaration) :
    compiled.ExactLayout entry.declaration entry.layout ∧ entry.layout.size < Wire.wordCount := by
  obtain ⟨exact, hexact, hsize⟩ := hfits
  obtain ⟨exact', hexact', hlayout⟩ := h.exists_exactLayout hentry
  rw [hexact.unique hexact', hexact.wrap_eq_self_iff.mpr hsize] at hlayout
  exact hlayout ▸ ⟨hexact, hsize⟩

/-- What is held in place fits a word if its owner does. -/
theorem exists_inner_of_fitsWord {d : Declaration} (hfits : compiled.FitsWord d)
    {f : Resolved.Field} (hf : f ∈ d.inlineFields) :
    ∃ type, compiled.declaration? f.type.name = some type ∧ compiled.FitsWord type ∧
      compiled.ExactLayout type (compiled.layoutD f.type.name) := by
  obtain ⟨exact, hexact, hsize⟩ := hfits
  obtain ⟨type, inner, htype, hinner, hle⟩ := hexact.exists_inner hf
  refine ⟨type, htype, ⟨inner, hinner, hle.trans_lt hsize⟩, ?_⟩
  rwa [h.layoutD_eq htype hinner, hinner.wrap_eq_self_iff.mpr (hle.trans_lt hsize)]

theorem layoutD_of_fitsWord {d : Declaration} (hfits : compiled.FitsWord d)
    {inner : TypeName → Layout} {type : TypeName → Declaration}
    (htype : ∀ f ∈ d.inlineFields, compiled.declaration? f.type.name = some (type f.type.name))
    (hinner : ∀ f ∈ d.inlineFields,
      compiled.ExactLayout (type f.type.name) (inner f.type.name)) :
    ∀ f ∈ d.inlineFields, inner f.type.name = compiled.layoutD f.type.name := by
  intro f hf
  obtain ⟨_, htype', _, hinner'⟩ := h.exists_inner_of_fitsWord hfits hf
  cases htype'.symm.trans (htype f hf)
  exact hinner'.unique (hinner f hf)

theorem isStructLayout {name : TypeName} {s : Resolved.Compound} {layout : Layout}
    (hentry : compiled.get? name = some ⟨.struct s, layout⟩)
    (hfits : compiled.FitsWord (.struct s)) :
    IsStructLayout (s.fields.map (·.slot compiled.layoutD)) s.forceAlign layout := by
  obtain ⟨hexact, _⟩ := h.exactLayout_of_fitsWord hentry hfits
  cases hexact with
  | struct inner type htype hinner hlayout =>
    have hsame := h.layoutD_of_fitsWord hfits htype hinner
    rwa [Resolved.map_slot_congr hsame] at hlayout

theorem isTableLayout {name : TypeName} {t : Resolved.Compound} {layout : Layout}
    (hentry : compiled.get? name = some ⟨.table t, layout⟩)
    (hfits : compiled.FitsWord (.table t)) :
    IsTableLayout (Resolved.liveSlots compiled.unionDiscriminant compiled.layoutD t.fields)
      layout := by
  obtain ⟨hexact, _⟩ := h.exactLayout_of_fitsWord hentry hfits
  cases hexact with
  | table inner type htype hinner hlayout =>
    have hsame := h.layoutD_of_fitsWord hfits htype hinner
    rwa [Resolved.liveSlots_congr_inline hsame] at hlayout

/-! ## Types that fit a word -/

theorem layoutD_of_size_lt {name : TypeName} {d : Declaration}
    (hd : compiled.declaration? name = some d) {exact : Layout}
    (hexact : compiled.ExactLayout d exact) (hsize : exact.size < Wire.wordCount) :
    compiled.layoutD name = exact := by
  rw [h.layoutD_eq hd hexact, hexact.wrap_eq_self_iff.mpr hsize]

theorem room_lt (hroom : compiled.HasRoom) {name : TypeName} {d : Declaration}
    (hd : compiled.declaration? name = some d) {exact : Layout}
    (hexact : compiled.ExactLayout d exact) :
    Wire.soffsetSize + Extent.room (compiled.extents d) + exact.alignment < Wire.wordCount := by
  obtain ⟨entry, hentry, rfl⟩ := Option.map_eq_some_iff.mp hd
  have hlt := hroom entry (OrderedMap.mem_values_iff.mpr ⟨name, hentry⟩)
  have hlayout := h.layoutD_eq hd hexact
  rw [Compiled.layoutD_of_get? hentry] at hlayout
  rwa [Compiled.room, hlayout] at hlt

/-- Where every type has room, all exact sizes are words: those of the types held in place by
induction, so the extents that were computed are exact. -/
theorem exact_size_lt (hroom : compiled.HasRoom) {d : Declaration} {exact : Layout}
    (hexact : compiled.ExactLayout d exact) {name : TypeName}
    (hd : compiled.declaration? name = some d) : exact.size < Wire.wordCount := by
  induction hexact generalizing name with
  | enum e => cases e.underlying <;> decide
  | union u => cases compiled.unionDiscriminant <;> decide
  | @struct s exact inner type htype hinner hstruct ih =>
    have hlt := h.room_lt hroom hd (.struct inner type htype hinner hstruct)
    have hsame := fun f hf =>
      (h.layoutD_of_size_lt (htype f hf) (hinner f hf) (ih f hf (htype f hf))).symm
    have hdvd := Resolved.alignment_dvd_of_mem_slots (h.alignment_dvd_of_inner htype hinner)
    have hle := hstruct.size_le_room fun e he => Nat.pos_of_dvd_of_pos (hdvd e he) (by decide)
    rw [Resolved.map_slot_congr hsame] at hle
    rw [Compiled.extents] at hlt
    omega
  | @table t exact inner type htype hinner htable ih =>
    have hlt := h.room_lt hroom hd (.table inner type htype hinner htable)
    have hsame := fun f hf =>
      (h.layoutD_of_size_lt (htype f hf) (hinner f hf) (ih f hf (htype f hf))).symm
    have hdvd := Resolved.alignment_dvd_of_mem_liveSlots h.isDiscriminant
      (h.alignment_dvd_of_inner htype hinner)
    have hle := htable.size_le_room fun slot hslot =>
      Nat.pos_of_dvd_of_pos (hdvd slot hslot) (by decide)
    rw [Resolved.liveSlots_congr_inline hsame] at hle
    exact lt_of_le_of_lt hle hlt

theorem fitsWord_of_hasRoom (hroom : compiled.HasRoom) {name : TypeName}
    {entry : Compiled.TypeEntry} (hentry : compiled.get? name = some entry) :
    compiled.FitsWord entry.declaration := by
  obtain ⟨exact, hexact, _⟩ := h.exists_exactLayout hentry
  exact ⟨exact, hexact,
    h.exact_size_lt hroom hexact (Option.map_eq_some_iff.mpr ⟨entry, hentry, rfl⟩)⟩

end Session.Produces

namespace Session

theorem fitsWord_of_compile {session : Session} {settings : CompilerSettings} {compiled : Compiled}
    (hcompile : session.compile settings = .ok compiled) (hroom : compiled.HasRoom)
    {name : TypeName} {entry : Compiled.TypeEntry} (hentry : compiled.get? name = some entry) :
    compiled.FitsWord entry.declaration := by
  obtain ⟨declarations, h⟩ := produces_of_compile hcompile
  exact h.fitsWord_of_hasRoom hroom hentry

/-! ## A ladder of structs -/

/-- A field by its name and its type, as written. -/
def plainField (name type : String) : Symbol.Field :=
  ⟨name, ⟨1, 1⟩, type, false, none, []⟩

/-- Structs in a row, each of four of the one before. -/
def rungs : String → List String → List Symbol.Compound
  | _, [] => []
  | below, name :: rest =>
    ⟨name, ⟨1, 1⟩, ["a", "b", "c", "d"].map (plainField · below), []⟩ :: rungs name rest

/-- A struct of 256 bytes and twenty-eight rungs above it. The last one, `c`, has two to the
sixty-fourth bytes, more than any word counts. -/
def ladderStructs : List Symbol.Compound :=
  ⟨"A", ⟨1, 1⟩, [plainField "x" "ubyte"], [.forceAlign 256]⟩ ::
    rungs "A" ("BCDEFGHIJKLMNOPQRSTUVWXYZabc".toList.map String.singleton)

/-- A session of one file with the ladder and some tables. -/
def ladderSession (tables : List Symbol.Compound) : Session where
  files := ({} : OrderedMap String SymbolTable).insert "ladder"
    { structs := ladderStructs.foldl (fun structs s => structs.insert s.name s) {}
      tables := tables.foldl (fun tables t => tables.insert t.name t) {}
      declarationOrder := (ladderStructs ++ tables).map (·.name) }

end Session

end WireSchema
