/-
WireSchema.Proofs.Code.Tables — the code of a table shows the slots of its layout.

The layout and the code leave out deprecated fields each by itself, and both keep the indices of the
rest among all fields. The code looks its offsets up and writes nothing where there is none. The keys
of a layout are just the fields in use, and the unions among them (`IsIndexed.fieldKeys`,
`IsIndexed.tagKeys`), so every look-up finds what it should and nothing else. What is found is written
line by line in the text of the table (`TableItem.code`), which stands in the text of its file.

Main statement: `Session.compile_table_matchesLayout`.
-/
import WireSchema.Proofs.Code.References
import WireSchema.Proofs.Compiled.Tables

namespace WireSchema

open WireSchema.Outcome
open WireSchema.Resolved (Declaration)

namespace Code

/-! ## What the code of a table shows -/

/-- The offset constants of a field: one for its value, and for a union one for its tag in front. -/
inductive SlotConstants (offsets tags : List (Nat × Nat)) (index : Nat) (f : Resolved.Field) :
    List Constant → Prop
  | value {offset : Nat} (hkind : f.type.kind ≠ .union)
      (hoffset : offsets.lookup index = some offset) :
      SlotConstants offsets tags index f [⟨"VT_" ++ constIdent f.name, offset⟩]
  | union {tag offset : Nat} (hkind : f.type.kind = .union) (htag : tags.lookup index = some tag)
      (hoffset : offsets.lookup index = some offset) :
      SlotConstants offsets tags index f
        [⟨"VT_" ++ constIdent f.name ++ "_TYPE", tag⟩, ⟨"VT_" ++ constIdent f.name, offset⟩]

/-- What is written for a field is its default if it has one, and falls back otherwise. -/
def Assigns (scopePath : List String) (f : Resolved.Field) (value : String × Initial) : Prop :=
  value.1 = fieldIdent f.name ∧
    ((f.default = none ∧ value.2.text = "Default::default()") ∨ ∃ literal v written,
      f.default = some literal ∧ defaultValue? f literal scopePath = some v ∧
      v.Written written ∧ value.2.text = "Some(" ++ written ++ ")")

/-- The code of a table and the layout of the table agree on every field. Constants are counted by
fields and not by names: the constant for a union's tag may have the name of another field's. -/
structure MatchesLayout (t : Resolved.Compound) (scopePath : List String) (layout : Layout)
    (i : TableItem) : Prop where
  ident : i.ident = typeIdent t.name.name
  /-- The fields in use, under their indices among all fields, each once and in order. -/
  live : (∀ index f, (index, f) ∈ liveFields t ↔
      t.fields[index]? = some f ∧ f.isDeprecated = false) ∧
    (liveFields t).Pairwise fun a b => a.1 < b.1
  fields : i.fields.map FieldItem.ident = (liveFields t).map fun entry => fieldIdent entry.2.name
  constants : ∃ offsets groups, layout.fieldOffsets = some offsets ∧
    i.constants = some ([⟨"SIZE", layout.size⟩, ⟨"ALIGN", layout.alignment⟩,
      ⟨"VTABLE_SIZE", Wire.vtableSize t.fields.length⟩] ++ groups.flatten) ∧
    List.Forall₂ (fun entry group => SlotConstants offsets layout.tagOffsets entry.1 entry.2 group)
      (liveFields t) groups ∧
    ∀ index f, t.fields[index]? = some f → f.isDeprecated = true →
      offsets.lookup index = none ∧ layout.tagOffsets.lookup index = none
  hasInitials : i.initials.isSome = true ↔ ∃ entry ∈ liveFields t, entry.2.default.isSome = true
  initials : ∀ values, i.initials = some values →
    List.Forall₂ (fun entry value => Assigns scopePath entry.2 value) (liveFields t) values

/-! ## Fields in use -/

section

variable {t : Resolved.Compound} {index : Nat} {f : Resolved.Field}

theorem mem_liveFields_iff :
    (index, f) ∈ liveFields t ↔ t.fields[index]? = some f ∧ f.isDeprecated = false := by
  simp only [liveFields, List.mem_filter, List.mem_map, Prod.exists, Prod.mk.injEq,
    List.mem_zipIdx_iff_getElem?, Bool.not_eq_true']
  constructor
  · rintro ⟨⟨_, _, hf, rfl, rfl⟩, hlive⟩
    exact ⟨hf, hlive⟩
  · rintro ⟨hf, hlive⟩
    exact ⟨⟨f, index, hf, rfl, rfl⟩, hlive⟩

theorem pairwise_liveFields (t : Resolved.Compound) :
    (liveFields t).Pairwise fun a b => a.1 < b.1 := by
  refine List.Pairwise.filter _ (List.pairwise_map.mpr ?_)
  exact Resolved.pairwise_zipIdx t.fields 0

end

/-! ## Offsets that are found -/

theorem lookup_eq_none_iff_not_mem {entries : List (Nat × Nat)} {index : Nat} :
    entries.lookup index = none ↔ index ∉ entries.map (·.1) := by
  rw [List.lookup_eq_none_iff]
  constructor
  · intro hnone hmem
    obtain ⟨entry, hentry, rfl⟩ := List.mem_map.mp hmem
    exact absurd rfl (bne_iff_ne.mp (hnone entry hentry))
  · intro hmem entry hentry
    exact bne_iff_ne.mpr fun heq => hmem (List.mem_map.mpr ⟨entry, hentry, heq.symm⟩)

theorem mem_of_lookup_eq_some {entries : List (Nat × Nat)} {index offset : Nat}
    (h : entries.lookup index = some offset) : (index, offset) ∈ entries := by
  obtain ⟨before, after, rfl, _⟩ := List.lookup_eq_some_iff.mp h
  exact List.mem_append_right _ List.mem_cons_self

theorem exists_lookup_of_mem {entries : List (Nat × Nat)} {index : Nat}
    (h : index ∈ entries.map (·.1)) : ∃ offset, entries.lookup index = some offset :=
  Option.ne_none_iff_exists'.mp fun hnone => lookup_eq_none_iff_not_mem.mp hnone h

/-- Where a layout has an offset for the value of a field, and one for its tag exactly if it is a
union, both are written. -/
theorem slotConstants_fieldConstants {layout : Layout} {offsets : List (Nat × Nat)} {index : Nat}
    {f : Resolved.Field} (hoffsets : layout.fieldOffsets = some offsets)
    (hvalue : index ∈ offsets.map (·.1))
    (htag : index ∈ layout.tagOffsets.map (·.1) ↔ f.type.kind = .union) :
    SlotConstants offsets layout.tagOffsets index f (fieldConstants layout index f) := by
  obtain ⟨offset, hoffset⟩ := exists_lookup_of_mem hvalue
  by_cases hkind : f.type.kind = .union
  · obtain ⟨tag, htag⟩ := exists_lookup_of_mem (htag.mpr hkind)
    have hconstants : fieldConstants layout index f =
        [⟨"VT_" ++ constIdent f.name ++ "_TYPE", tag⟩, ⟨"VT_" ++ constIdent f.name, offset⟩] := by
      simp [fieldConstants, hoffsets, hoffset, htag]
    rw [hconstants]
    exact .union hkind htag hoffset
  · have hnone := lookup_eq_none_iff_not_mem.mpr (mt htag.mp hkind)
    have hconstants : fieldConstants layout index f = [⟨"VT_" ++ constIdent f.name, offset⟩] := by
      simp [fieldConstants, hoffsets, hoffset, hnone]
    rw [hconstants]
    exact .value hkind hoffset

/-! ## Initial values -/

section

variable {scopePath : List String} {fields : List Resolved.Field}

theorem isSome_of_initials {wrap : Value → Initial} {result : Option (List (String × Initial))}
    (h : Code.initials wrap scopePath fields = .ok result) :
    result.isSome = true ↔ ∃ f ∈ fields, f.default.isSome = true := by
  rw [← List.any_eq_true]
  unfold Code.initials at h
  split at h
  · rename_i hany
    obtain ⟨values, _, rfl⟩ := map_eq_ok_iff.mp h
    simp [hany]
  · rename_i hany
    cases h
    simpa using hany

theorem fst_of_initial {wrap : Value → Initial} {f : Resolved.Field} {value : String × Initial}
    (h : initial wrap scopePath f = .ok value) : value.1 = fieldIdent f.name := by
  unfold initial at h
  split at h
  · cases h
    rfl
  · split at h <;> cases h
    rfl

theorem forall₂_assigns {values : List (String × Initial)}
    (h : Code.initials .present scopePath fields = .ok (some values)) :
    List.Forall₂ (Assigns scopePath) fields values := by
  refine (forall₂_of_initials h).imp fun f value hvalue => ⟨fst_of_initial hvalue, ?_⟩
  rcases cases_of_initial hvalue with ⟨hnone, hfallback⟩ | ⟨literal, v, hliteral, hv, hpresent⟩
  · exact .inl ⟨hnone, by rw [hfallback]; rfl⟩
  · exact .inr ⟨literal, v, v.text, hliteral, hv, v.written_text, by rw [hpresent]; rfl⟩

end

/-! ## Tables -/

section

variable {t : Resolved.Compound} {scopePath : List String} {layout : Layout}
  {settings : CodeSettings} {i : TableItem}

theorem tableItem_eq_ok_iff : tableItem t scopePath layout settings = .ok i ↔
    ∃ values, Code.initials .present scopePath ((liveFields t).map (·.2)) = .ok values ∧
      i = ⟨derives ["Debug", "Clone", "PartialEq"] values.isNone settings, typeIdent t.name.name,
        ((liveFields t).map (·.2)).map fun f =>
          ⟨fieldIdent f.name, tableHolder f, baseType f scopePath⟩,
        values, if settings.emitLayoutConstants then some (tableConstants t layout) else none⟩ := by
  rw [tableItem, bind_eq_ok_iff]
  simp only [pure, Except.pure, Except.ok.injEq, eq_comm]

theorem exists_tableItem (h : ∀ f ∈ t.fields, RendersDefault f scopePath) (layout : Layout)
    (settings : CodeSettings) : ∃ i, tableItem t scopePath layout settings = .ok i := by
  obtain ⟨values, hvalues⟩ := exists_initials .present fun f hf =>
    h f (mem_fields_of_mem_liveFields hf)
  exact ⟨_, tableItem_eq_ok_iff.mpr ⟨values, hvalues, rfl⟩⟩

/-- Offset constants stand group by group, a group for each field in use. -/
theorem slotConstants_of_isIndexed (h : t.IsIndexed layout) {offsets : List (Nat × Nat)}
    (hoffsets : layout.fieldOffsets = some offsets) :
    List.Forall₂ (fun entry group => SlotConstants offsets layout.tagOffsets entry.1 entry.2 group)
      (liveFields t) ((liveFields t).map fun entry => fieldConstants layout entry.1 entry.2) := by
  obtain ⟨offsets', hoffsets', _, hkeys⟩ := h.fieldKeys
  obtain rfl := Option.some.inj (hoffsets.symm.trans hoffsets')
  rw [List.forall₂_map_right_iff, List.forall₂_same]
  rintro ⟨index, f⟩ hentry
  obtain ⟨hf, hlive⟩ := mem_liveFields_iff.mp hentry
  refine slotConstants_fieldConstants hoffsets ((hkeys index).mpr ⟨f, hf, hlive⟩) ?_
  rw [h.tagKeys.2]
  constructor
  · rintro ⟨g, hg, _, hkind⟩
    cases hf.symm.trans hg
    exact hkind
  · intro hkind
    exact ⟨f, hf, hlive, hkind⟩

theorem lookup_of_isDeprecated (h : t.IsIndexed layout) {offsets : List (Nat × Nat)}
    (hoffsets : layout.fieldOffsets = some offsets) {index : Nat} {f : Resolved.Field}
    (hf : t.fields[index]? = some f) (hdeprecated : f.isDeprecated = true) :
    offsets.lookup index = none ∧ layout.tagOffsets.lookup index = none := by
  obtain ⟨offsets', hoffsets', _, hkeys⟩ := h.fieldKeys
  obtain rfl := Option.some.inj (hoffsets.symm.trans hoffsets')
  rw [lookup_eq_none_iff_not_mem, lookup_eq_none_iff_not_mem, hkeys, h.tagKeys.2]
  constructor
  · rintro ⟨g, hg, hlive⟩
    cases hf.symm.trans hg
    cases hdeprecated.symm.trans hlive
  · rintro ⟨g, hg, hlive, _⟩
    cases hf.symm.trans hg
    cases hdeprecated.symm.trans hlive

theorem matchesLayout_of_tableItem (h : tableItem t scopePath layout settings = .ok i)
    (hsettings : settings.emitLayoutConstants = true) (hindexed : t.IsIndexed layout) :
    MatchesLayout t scopePath layout i := by
  obtain ⟨values, hvalues, rfl⟩ := tableItem_eq_ok_iff.mp h
  obtain ⟨offsets, hoffsets, _⟩ := hindexed.fieldKeys
  refine ⟨rfl, ⟨fun _ _ => mem_liveFields_iff, pairwise_liveFields t⟩, ?_, ?_, ?_, ?_⟩
  · simp
  · refine ⟨offsets, _, hoffsets, ?_, slotConstants_of_isIndexed hindexed hoffsets,
      fun _ _ => lookup_of_isDeprecated hindexed hoffsets⟩
    rw [if_pos hsettings, tableConstants, List.flatMap_def]
  · rw [isSome_of_initials hvalues]
    simp only [List.mem_map, exists_exists_and_eq_and]
  · rintro values rfl
    have hassigns := forall₂_assigns hvalues
    rwa [List.forall₂_map_left_iff] at hassigns

end

end Code

namespace Session

variable {session : Session} {settings : CompilerSettings} {compiled : Compiled}

/-- A table of a session has an item, and it agrees with the layout of the table. -/
theorem Compiles.exists_matchesLayout {declarations : OrderedMap TypeName Declaration}
    (h : session.Compiles settings declarations compiled) {key : TypeName}
    {entry : Compiled.TypeEntry} {t : Resolved.Compound}
    (hentry : compiled.get? key = some entry) (htable : entry.declaration = .table t)
    (scopePath : List String) {codeSettings : CodeSettings}
    (hsettings : codeSettings.emitLayoutConstants = true) :
    ∃ i, Code.item entry scopePath compiled.unionDiscriminant codeSettings = .ok (.table i) ∧
      Code.MatchesLayout t scopePath entry.layout i := by
  have hrenders : ∀ f ∈ t.fields, Code.RendersDefault f scopePath := by
    intro f hf
    refine h.rendersDefault hentry ?_ scopePath
    rw [htable]
    exact hf
  obtain ⟨i, hitem⟩ := Code.exists_tableItem hrenders entry.layout codeSettings
  refine ⟨i, ?_, Code.matchesLayout_of_tableItem hitem hsettings
    (h.produces.isIndexed hentry htable)⟩
  rw [Code.item, htable]
  exact map_eq_ok_iff.mpr ⟨i, hitem, rfl⟩

/-- **Table code.** Every table of a compiled session of registered texts is listed by a file, and
has an item there that agrees with its layout where offsets are written: one field per field in use,
in order; for each of them its offset, and the offset of its tag exactly if it is a union; and
initial values for all of them exactly if one has a default. Where that file has code, its text is the
texts of its types, and among them, at the place of the table, the text of this item. -/
theorem compile_table_matchesLayout {texts : List (String × String)}
    (hregister : registerTexts {} texts = .ok session)
    (hcompile : session.compile settings = .ok compiled) {key : TypeName}
    {entry : Compiled.TypeEntry} {t : Resolved.Compound}
    (hentry : compiled.get? key = some entry) (htable : entry.declaration = .table t)
    (codeSettings : CodeSettings) (hsettings : codeSettings.emitLayoutConstants = true) :
    ∃ source ∈ compiled.files, key ∈ source.order ∧ ∃ i,
      Code.item entry source.scopePath compiled.unionDiscriminant codeSettings = .ok (.table i) ∧
      Code.MatchesLayout t source.scopePath entry.layout i ∧
      ∀ text, Code.text compiled source.path codeSettings = .ok text →
        ∃ items, text ++ "\n" = (Code.SourceFile.ofItems source codeSettings items).code ∧
          List.Forall₂ (fun name item => name = key → item = .table i) source.order items := by
  have hbuilt := built_of_registerTexts hregister
  obtain ⟨declarations, h⟩ := compiles_of_compile hbuilt hcompile
  obtain ⟨source, hsource, hname, _⟩ := h.exists_file_of_get? hbuilt hentry
  obtain ⟨i, hitem, hmatches⟩ := h.exists_matchesLayout hentry htable source.scopePath hsettings
  refine ⟨source, hsource, hname, i, hitem, hmatches, fun text htext => ?_⟩
  obtain ⟨file, hfile, rfl⟩ := map_eq_ok_iff.mp htext
  obtain ⟨items, hitems, rfl⟩ :=
    (Code.ofCompiled_eq_ok_iff (h.file?_eq_some_iff.mpr ⟨hsource, rfl⟩)).mp hfile
  refine ⟨items, Code.SourceFile.text_append_newline _, (mapM_eq_ok_iff.mp hitems).imp ?_⟩
  rintro name item hmade rfl
  rw [Code.namedItem_of_get? hentry, hitem] at hmade
  exact (Except.ok.inj hmade).symm

/-- A deprecated field in front of a union, an array of unions, and one default. -/
def trawlerTexts : List (String × String) :=
  [("trawler", "table Net {} union Haul { Net } table Trawler { old: int (deprecated); haul: Haul;
      crew: short = 7; hauls: [Haul]; name: string; }")]

def trawlerSession : Session :=
  ((registerTexts {} trawlerTexts).toOption).getD {}

theorem trawler_matchesLayout :
    registerTexts {} trawlerTexts = .ok trawlerSession ∧ ∃ compiled t outputs,
      trawlerSession.compile {} = .ok compiled ∧ Code.generate compiled {} = .ok outputs ∧
      compiled.get? ⟨[], "Trawler"⟩ = some ⟨.table t,
        ⟨4, 28, some [(1, 8), (2, 12), (3, 20), (4, 24)], [(1, 4), (3, 16)]⟩⟩ ∧
      ∃ source ∈ compiled.files, ⟨[], "Trawler"⟩ ∈ source.order ∧ ∃ i,
        Code.MatchesLayout t source.scopePath
          ⟨4, 28, some [(1, 8), (2, 12), (3, 20), (4, 24)], [(1, 4), (3, 16)]⟩ i ∧
        ∀ text, Code.text compiled source.path {} = .ok text →
          ∃ items, text ++ "\n" = (Code.SourceFile.ofItems source {} items).code ∧
            List.Forall₂ (fun name item => name = ⟨[], "Trawler"⟩ → item = .table i) source.order
              items := by
  obtain ⟨hregisters, hcompiles⟩ : (registerTexts {} trawlerTexts).toOption.isSome = true ∧
      ((trawlerSession.compile {}).toOption.bind fun compiled =>
        (Code.generate compiled {}).toOption.bind fun _ =>
          (compiled.get? ⟨[], "Trawler"⟩).map fun entry =>
            (entry.declaration.kind, entry.layout)) =
          some (Kind.table,
            ⟨4, 28, some [(1, 8), (2, 12), (3, 20), (4, 24)], [(1, 4), (3, 16)]⟩) := by
    decide +kernel
  obtain ⟨compiled, hcompiled, hgenerates⟩ := Option.bind_eq_some_iff.mp hcompiles
  obtain ⟨outputs, hgenerated, hfound⟩ := Option.bind_eq_some_iff.mp hgenerates
  obtain ⟨⟨declaration, layout⟩, hentry, heq⟩ := Option.map_eq_some_iff.mp hfound
  obtain ⟨hkind, rfl⟩ := Prod.mk.inj heq
  have hregister : registerTexts {} trawlerTexts = .ok trawlerSession := eq_ok_getD hregisters
  have hcompile := eq_ok_of_toOption hcompiled
  cases declaration with
  | table t =>
    obtain ⟨source, hsource, hname, i, _, hmatches, htext⟩ :=
      compile_table_matchesLayout hregister hcompile hentry rfl {} rfl
    exact ⟨hregister, compiled, t, outputs, hcompile, eq_ok_of_toOption hgenerated, hentry, source,
      hsource, hname, i, hmatches, htext⟩
  | enum e => cases hkind
  | union u => cases hkind
  | struct s => cases hkind

end Session

end WireSchema
