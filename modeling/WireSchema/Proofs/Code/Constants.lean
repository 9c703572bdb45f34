/-
WireSchema.Proofs.Code.Constants — when the constants of a table have names of their own.

A constant tells the size, the alignment, the length of the vtable, the offset of a field or the
offset of a union's tag (`Quantity`), and its name is made from what it tells. Fields whose
identifiers differ have different offset constants (`constIdent_eq_iff`), and no offset is named like
one of the first three. But the tag of a union `a` is named like a field `a_type`, and nothing
compares the two (`Quantity.ident_eq_iff`).

Main statement: `Session.compile_constants_nodup_iff`.
-/
import WireSchema.Proofs.Code.Hygiene
import WireSchema.Proofs.Code.Tables

namespace WireSchema

open WireSchema.Grammar (IsIdentifier)
open WireSchema.Outcome
open WireSchema.Resolved (Declaration)

namespace Code

/-! ## What constants tell -/

/-- What a constant in the code of a table tells; offsets are those of a field. -/
inductive Quantity where
  | size
  | alignment
  | vtableSize
  | tag (field : String)
  | offset (field : String)
  deriving DecidableEq

namespace Quantity

/-- The name of the constant. -/
def ident : Quantity → String
  | size => "SIZE"
  | alignment => "ALIGN"
  | vtableSize => "VTABLE_SIZE"
  | tag field => "VT_" ++ constIdent field ++ "_TYPE"
  | offset field => "VT_" ++ constIdent field

/-- The field whose offset is told. -/
def field? : Quantity → Option String
  | size | alignment | vtableSize => none
  | tag field | offset field => some field

/-- The tag of one field is named like the offset of another. -/
inductive Meets : Quantity → Quantity → Prop
  | tag {union field : String} (h : snakeCase field = snakeCase union ++ "_type") :
      Meets (.tag union) (.offset field)

section

variable {a b : String} (ha : IsIdentifier a) (hb : IsIdentifier b)

include ha hb

theorem ident_offset_eq_iff :
    (offset a).ident = (offset b).ident ↔ snakeCase a = snakeCase b := by
  rw [ident, ident, ← constIdent_eq_iff ha hb]
  simp

theorem ident_tag_eq_iff : (tag a).ident = (tag b).ident ↔ snakeCase a = snakeCase b := by
  rw [ident, ident, ← constIdent_eq_iff ha hb]
  simp

theorem ident_tag_eq_offset_iff : (tag a).ident = (offset b).ident ↔
    snakeCase b = snakeCase a ++ "_type" := by
  have hiff : constIdent b = constIdent a ++ "_TYPE" ↔ snakeCase b = snakeCase a ++ "_type" :=
    constIdent_eq_append_iff ha hb (by decide) (by decide)
  rw [ident, ident, ← hiff, String.append_assoc, eq_comm]
  simp

end

variable {p q : Quantity}

/-- Offsets are marked as such, and nothing else is. -/
theorem take_ident_eq_iff : p.ident.toList.take 3 = "VT_".toList ↔ p.field?.isSome = true := by
  cases p with
  | size => exact iff_of_false (by decide) (by decide)
  | alignment => exact iff_of_false (by decide) (by decide)
  | vtableSize => exact iff_of_false (by decide) (by decide)
  | tag field => simp [ident, field?]
  | offset field => simp [ident, field?]

theorem isSome_field?_of_ident_eq (h : p.ident = q.ident) :
    p.field?.isSome = q.field?.isSome := by
  rw [Bool.eq_iff_iff, ← take_ident_eq_iff, ← take_ident_eq_iff, h]

/-- Between fields that differ in small letters, names agree only where a tag meets an offset. -/
theorem ident_eq_iff (hp : ∀ f, p.field? = some f → IsIdentifier f)
    (hq : ∀ f, q.field? = some f → IsIdentifier f)
    (happart : ∀ f g, p.field? = some f → q.field? = some g → snakeCase f = snakeCase g → f = g) :
    p.ident = q.ident ↔ p = q ∨ p.Meets q ∨ q.Meets p := by
  constructor
  · intro h
    have hsome := isSome_field?_of_ident_eq h
    cases p with
    | size => cases q <;> simp [field?, ident] at hsome h ⊢
    | alignment => cases q <;> simp [field?, ident] at hsome h ⊢
    | vtableSize => cases q <;> simp [field?, ident] at hsome h ⊢
    | tag f =>
      cases q with
      | size => cases hsome
      | alignment => cases hsome
      | vtableSize => cases hsome
      | tag g =>
        rw [ident_tag_eq_iff (hp f rfl) (hq g rfl)] at h
        exact .inl (congrArg _ (happart f g rfl rfl h))
      | offset g => exact .inr (.inl (.tag ((ident_tag_eq_offset_iff (hp f rfl) (hq g rfl)).mp h)))
    | offset f =>
      cases q with
      | size => cases hsome
      | alignment => cases hsome
      | vtableSize => cases hsome
      | tag g =>
        exact .inr (.inr (.tag ((ident_tag_eq_offset_iff (hq g rfl) (hp f rfl)).mp h.symm)))
      | offset g =>
        rw [ident_offset_eq_iff (hp f rfl) (hq g rfl)] at h
        exact .inl (congrArg _ (happart f g rfl rfl h))
  · rintro (rfl | ⟨⟨h⟩⟩ | ⟨⟨h⟩⟩)
    · rfl
    · exact (ident_tag_eq_offset_iff (hp _ rfl) (hq _ rfl)).mpr h
    · exact ((ident_tag_eq_offset_iff (hq _ rfl) (hp _ rfl)).mpr h).symm

end Quantity

/-! ## The constants of a table -/

/-- What the constants of a field tell: the offset of its tag if it is a union, then its own. -/
def fieldQuantities (f : Resolved.Field) : List Quantity :=
  (if f.type.kind = .union then [.tag f.name] else []) ++ [.offset f.name]

/-- What the constants of a table tell, in order. -/
def quantities (t : Resolved.Compound) : List Quantity :=
  [.size, .alignment, .vtableSize] ++ (liveFields t).flatMap fun entry => fieldQuantities entry.2

theorem map_name_of_slotConstants {offsets tags : List (Nat × Nat)} {index : Nat}
    {f : Resolved.Field} {group : List Constant} (h : SlotConstants offsets tags index f group) :
    group.map Constant.name = (fieldQuantities f).map Quantity.ident := by
  cases h with
  | value hkind hoffset => simp [fieldQuantities, hkind, Quantity.ident]
  | union hkind htag hoffset => simp [fieldQuantities, hkind, Quantity.ident]

section

variable {offsets tags : List (Nat × Nat)} {index : Nat} {f : Resolved.Field}
  {group : List Constant} (h : SlotConstants offsets tags index f group)

include h

theorem SlotConstants.exists_offset : ∃ offset, offsets.lookup index = some offset ∧
    ⟨(Quantity.offset f.name).ident, offset⟩ ∈ group := by
  cases h with
  | value hkind hoffset => exact ⟨_, hoffset, by simp [Quantity.ident]⟩
  | union hkind htag hoffset => exact ⟨_, hoffset, by simp [Quantity.ident]⟩

theorem SlotConstants.exists_tag (hunion : f.type.kind = .union) :
    ∃ tag, tags.lookup index = some tag ∧ ⟨(Quantity.tag f.name).ident, tag⟩ ∈ group := by
  cases h with
  | value hkind hoffset => exact absurd hunion hkind
  | union hkind htag hoffset => exact ⟨_, htag, by simp [Quantity.ident]⟩

end

section

variable {t : Resolved.Compound} {scopePath : List String} {layout : Layout} {i : TableItem}
  {constants : List Constant} (h : MatchesLayout t scopePath layout i)
  (hconstants : i.constants = some constants)

include h hconstants

/-- Names are made from what the constants tell. -/
theorem map_name_of_matchesLayout :
    constants.map Constant.name = (quantities t).map Quantity.ident := by
  obtain ⟨offsets, groups, _, heq, hgroups, _⟩ := h.constants
  obtain rfl := Option.some.inj (hconstants.symm.trans heq)
  have hnames : groups.map (List.map Constant.name) =
      (liveFields t).map fun entry => (fieldQuantities entry.2).map Quantity.ident := by
    rw [← List.forall₂_eq_eq_eq, List.forall₂_map_left_iff, List.forall₂_map_right_iff]
    exact hgroups.flip.imp fun group entry hgroup => map_name_of_slotConstants hgroup
  rw [quantities, List.map_append, List.map_append, List.map_flatten, hnames, List.map_flatMap,
    List.flatMap_def]
  rfl

end

/-- Two fields in use: a union, and one that is named like its tag. -/
structure TagMeets (t : Resolved.Compound) (f g : Resolved.Field) : Prop where
  union : f ∈ (liveFields t).map (·.2) ∧ f.type.kind = .union
  field : g ∈ (liveFields t).map (·.2)
  named : snakeCase g.name = snakeCase f.name ++ "_type"

section

variable {t : Resolved.Compound}

theorem mem_fieldQuantities_iff {f : Resolved.Field} {q : Quantity} :
    q ∈ fieldQuantities f ↔ (f.type.kind = .union ∧ q = .tag f.name) ∨ q = .offset f.name := by
  unfold fieldQuantities
  split <;> simp [*]

theorem field?_of_mem_fieldQuantities {f : Resolved.Field} {q : Quantity}
    (h : q ∈ fieldQuantities f) : q.field? = some f.name := by
  rcases mem_fieldQuantities_iff.mp h with ⟨_, rfl⟩ | rfl <;> rfl

theorem mem_quantities_iff {q : Quantity} : q ∈ quantities t ↔
    q.field? = none ∨ ∃ f ∈ (liveFields t).map (·.2), q ∈ fieldQuantities f := by
  rw [quantities, List.mem_append, List.mem_flatMap]
  refine or_congr ?_ ?_
  · cases q <;> simp [Quantity.field?]
  · simp only [List.mem_map, exists_exists_and_eq_and]

theorem exists_field_of_mem_quantities {q : Quantity} (h : q ∈ quantities t) {name : String}
    (hname : q.field? = some name) : ∃ f ∈ (liveFields t).map (·.2), f.name = name := by
  rcases mem_quantities_iff.mp h with hnone | ⟨f, hf, hq⟩
  · cases hnone.symm.trans hname
  · exact ⟨f, hf, Option.some.inj ((field?_of_mem_fieldQuantities hq).symm.trans hname)⟩

theorem nodup_quantities (h : ((liveFields t).map fun entry => entry.2.name).Nodup) :
    (quantities t).Nodup := by
  rw [List.nodup_iff_pairwise_ne, List.pairwise_map] at h
  have hfields : ((liveFields t).flatMap fun entry => fieldQuantities entry.2).Nodup := by
    refine List.nodup_flatMap.mpr ⟨fun entry _ => ?_, h.imp fun hne q hq hq' => hne ?_⟩
    · unfold fieldQuantities
      split <;> simp
    · exact Option.some.inj ((field?_of_mem_fieldQuantities hq).symm.trans
        (field?_of_mem_fieldQuantities hq'))
  refine List.nodup_append.mpr ⟨by decide, hfields, ?_⟩
  rintro p hp q hq rfl
  obtain ⟨entry, _, hq⟩ := List.mem_flatMap.mp hq
  have hnone : p.field? = none :=
    (by decide : ∀ p ∈ [Quantity.size, .alignment, .vtableSize], p.field? = none) p hp
  cases hnone.symm.trans (field?_of_mem_fieldQuantities hq)

theorem exists_meets_iff : (∃ p ∈ quantities t, ∃ q ∈ quantities t, p.Meets q) ↔
    ∃ f g, TagMeets t f g := by
  constructor
  · rintro ⟨_, hp, _, hq, ⟨hnamed⟩⟩
    obtain ⟨g, hg, rfl⟩ := exists_field_of_mem_quantities hq rfl
    rcases mem_quantities_iff.mp hp with hnone | ⟨f, hf, hp⟩
    · cases hnone
    · rcases mem_fieldQuantities_iff.mp hp with ⟨hunion, heq⟩ | heq
      · cases heq
        exact ⟨f, g, ⟨hf, hunion⟩, hg, hnamed⟩
      · cases heq
  · rintro ⟨f, g, ⟨hf, hunion⟩, hg, hnamed⟩
    exact ⟨.tag f.name,
      mem_quantities_iff.mpr (.inr ⟨f, hf, mem_fieldQuantities_iff.mpr (.inl ⟨hunion, rfl⟩)⟩),
      .offset g.name,
      mem_quantities_iff.mpr (.inr ⟨g, hg, mem_fieldQuantities_iff.mpr (.inr rfl)⟩), .tag hnamed⟩

/-- With fields whose identifiers differ, only tags decide whether the names do. -/
theorem nodup_ident_quantities_iff (hnamed : ∀ f ∈ (liveFields t).map (·.2), IsIdentifier f.name)
    (hidents : ((liveFields t).map fun entry => fieldIdent entry.2.name).Nodup) :
    ((quantities t).map Quantity.ident).Nodup ↔ ¬ ∃ f g, TagMeets t f g := by
  have hsnake : ((liveFields t).map fun entry => snakeCase entry.2.name).Nodup := by
    refine List.Nodup.of_map escapeKeyword ?_
    rwa [List.map_map]
  have hnames : ((liveFields t).map fun entry => entry.2.name).Nodup := by
    refine List.Nodup.of_map snakeCase ?_
    rwa [List.map_map]
  have happart : ∀ f ∈ (liveFields t).map (·.2), ∀ g ∈ (liveFields t).map (·.2),
      snakeCase f.name = snakeCase g.name → f = g := by
    rw [List.forall_mem_map]
    intro entry hentry
    rw [List.forall_mem_map]
    intro other hother heq
    rw [List.inj_on_of_nodup_map hsnake hentry hother heq]
  have hident : ∀ p ∈ quantities t, ∀ q ∈ quantities t,
      (p.ident = q.ident ↔ p = q ∨ p.Meets q ∨ q.Meets p) := by
    intro p hp q hq
    refine Quantity.ident_eq_iff (fun name hname => ?_) (fun name hname => ?_) ?_
    · obtain ⟨f, hf, rfl⟩ := exists_field_of_mem_quantities hp hname
      exact hnamed f hf
    · obtain ⟨f, hf, rfl⟩ := exists_field_of_mem_quantities hq hname
      exact hnamed f hf
    · intro name name' hname hname' heq
      obtain ⟨f, hf, rfl⟩ := exists_field_of_mem_quantities hp hname
      obtain ⟨g, hg, rfl⟩ := exists_field_of_mem_quantities hq hname'
      rw [happart f hf g hg heq]
  rw [List.nodup_map_iff_inj_on (nodup_quantities hnames), ← exists_meets_iff]
  constructor
  · rintro hinj ⟨p, hp, q, hq, hmeets⟩
    have heq := hinj p hp q hq ((hident p hp q hq).mpr (.inr (.inl hmeets)))
    cases hmeets
    cases heq
  · intro hnone p hp q hq heq
    rcases (hident p hp q hq).mp heq with heq | hmeets | hmeets
    · exact heq
    · exact absurd ⟨p, hp, q, hq, hmeets⟩ hnone
    · exact absurd ⟨q, hq, p, hp, hmeets⟩ hnone

/-- Where a tag meets a field, one name is given two offsets; in a table without collisions they are
different. -/
theorem exists_two_offsets {scopePath : List String} {layout : Layout} {i : TableItem}
    {constants : List Constant} (h : MatchesLayout t scopePath layout i)
    (hconstants : i.constants = some constants) {f g : Resolved.Field} (hmeets : TagMeets t f g)
    (hnamed : ∀ f ∈ (liveFields t).map (·.2), IsIdentifier f.name) :
    ∃ tag offset, ⟨(Quantity.offset g.name).ident, tag⟩ ∈ constants ∧
      ⟨(Quantity.offset g.name).ident, offset⟩ ∈ constants ∧
      ∀ discriminant inner, t.IsLaidOut discriminant inner layout → tag ≠ offset := by
  obtain ⟨offsets, groups, hoffsets, heq, hgroups, _⟩ := h.constants
  obtain rfl := Option.some.inj (hconstants.symm.trans heq)
  obtain ⟨⟨hf, hunion⟩, hg, hname⟩ := hmeets
  rw [← Quantity.ident_tag_eq_offset_iff (hnamed f hf) (hnamed g hg)] at hname
  obtain ⟨⟨index, f⟩, hentry, rfl⟩ := List.mem_map.mp hf
  obtain ⟨⟨index', g⟩, hentry', rfl⟩ := List.mem_map.mp hg
  obtain ⟨group, hgroup, hslots⟩ := exists_of_forall₂_of_mem hgroups.flip hentry
  obtain ⟨group', hgroup', hslots'⟩ := exists_of_forall₂_of_mem hgroups.flip hentry'
  obtain ⟨tag, htag, hconstant⟩ := hslots.exists_tag hunion
  obtain ⟨offset, hoffset, hconstant'⟩ := hslots'.exists_offset
  refine ⟨tag, offset, ?_, ?_, fun discriminant inner hlaid => ?_⟩
  · rw [← hname]
    exact List.mem_append_right _ (List.mem_flatten.mpr ⟨group, hgroup, hconstant⟩)
  · exact List.mem_append_right _ (List.mem_flatten.mpr ⟨group', hgroup', hconstant'⟩)
  · refine hlaid.ne_of_slotAt (.tag (mem_liveFields_iff.mp hentry).1 (mem_of_lookup_eq_some htag))
      (.value (mem_liveFields_iff.mp hentry').1 hoffsets (mem_of_lookup_eq_some hoffset)) ?_
    exact fun hslot => by cases congrArg Slot.role hslot

end

end Code

namespace Session

variable {session : Session} {settings : CompilerSettings} {compiled : Compiled}

/-- **Constants.** Let the fields in use of a table have different identifiers, in a compiled session
of registered texts. The constants in its code have different names exactly when no union among the
fields stands beside a field named like its tag; where one does, the name of that field is given
both offsets, and they are different unless the size of the table overflows. -/
theorem compile_constants_nodup_iff {texts : List (String × String)}
    (hregister : registerTexts {} texts = .ok session)
    (hcompile : session.compile settings = .ok compiled) {key : TypeName}
    {entry : Compiled.TypeEntry} {t : Resolved.Compound}
    (hentry : compiled.get? key = some entry) (htable : entry.declaration = .table t)
    (hidents : ((Code.liveFields t).map fun live => Code.fieldIdent live.2.name).Nodup)
    (scopePath : List String) (codeSettings : CodeSettings)
    (hsettings : codeSettings.emitLayoutConstants = true) :
    ∃ i constants,
      Code.item entry scopePath compiled.unionDiscriminant codeSettings = .ok (.table i) ∧
      i.fields.map Code.FieldItem.ident =
        (Code.liveFields t).map (fun live => Code.fieldIdent live.2.name) ∧
      i.constants = some constants ∧
      ((constants.map Code.Constant.name).Nodup ↔ ¬ ∃ f g, Code.TagMeets t f g) ∧
      ∀ f g, Code.TagMeets t f g → ∃ tag offset,
        ⟨"VT_" ++ Code.constIdent g.name, tag⟩ ∈ constants ∧
        ⟨"VT_" ++ Code.constIdent g.name, offset⟩ ∈ constants ∧
        (compiled.FitsWord (.table t) → tag ≠ offset) := by
  have hbuilt := built_of_registerTexts hregister
  have hgrammatical := grammatical_of_registerTexts hregister
  obtain ⟨declarations, h⟩ := compiles_of_compile hbuilt hcompile
  have hnamed : ∀ f ∈ (Code.liveFields t).map (·.2), IsIdentifier f.name := by
    intro f hf
    refine (h.isNamed hgrammatical hentry).fields f ?_
    rw [htable]
    exact Code.mem_fields_of_mem_liveFields hf
  obtain ⟨i, hitem, hmatches⟩ := h.exists_matchesLayout hentry htable scopePath hsettings
  obtain ⟨_, _, _, hconstants, _⟩ := hmatches.constants
  refine ⟨i, _, hitem, hmatches.fields, hconstants, ?_, fun f g hmeets => ?_⟩
  · rw [Code.map_name_of_matchesLayout hmatches hconstants]
    exact Code.nodup_ident_quantities_iff hnamed hidents
  · obtain ⟨tag, offset, htag, hoffset, hne⟩ :=
      Code.exists_two_offsets hmatches hconstants hmeets hnamed
    exact ⟨tag, offset, htag, hoffset, fun hfits =>
      hne _ _ (h.isLaidOut hgrammatical (by rw [hentry, ← htable]) hfits)⟩

/-- Unions beside fields that are nearly named like their tags: one is deprecated, one has more
behind it. -/
def winchTexts : List (String × String) :=
  [("winch", "table Rope {} union Load { Rope } table Winch { load: Load;
      load_type: ubyte (deprecated); loads: [Load]; loadTypes: [ubyte]; }")]

def winchSession : Session :=
  ((registerTexts {} winchTexts).toOption).getD {}

theorem winch_constants_nodup :
    registerTexts {} winchTexts = .ok winchSession ∧ ∃ compiled t layout i constants,
      winchSession.compile {} = .ok compiled ∧
      compiled.get? ⟨[], "Winch"⟩ = some ⟨.table t, layout⟩ ∧
      Code.item ⟨.table t, layout⟩ [] compiled.unionDiscriminant {} = .ok (.table i) ∧
      i.constants = some constants ∧ (constants.map Code.Constant.name).Nodup ∧
      ¬ ∃ f g, Code.TagMeets t f g := by
  obtain ⟨hregisters, hcompiles⟩ : (registerTexts {} winchTexts).toOption.isSome = true ∧
      ((winchSession.compile {}).toOption.bind fun compiled =>
        (compiled.get? ⟨[], "Winch"⟩).bind fun entry =>
          (Code.item entry [] compiled.unionDiscriminant {}).toOption.map fun item =>
            (entry.declaration.kind, (entry.declaration.fields.filter fun f =>
                !f.isDeprecated).map fun f => Code.fieldIdent f.name,
              match item with
              | .table i => (i.constants.getD []).map Code.Constant.name
              | _ => [])) =
        some (Kind.table, ["load", "loads", "load_types"], ["SIZE", "ALIGN", "VTABLE_SIZE",
          "VT_LOAD_TYPE", "VT_LOAD", "VT_LOADS_TYPE", "VT_LOADS", "VT_LOAD_TYPES"]) := by
    decide +kernel
  obtain ⟨compiled, hcompiled, hfound⟩ := Option.bind_eq_some_iff.mp hcompiles
  obtain ⟨⟨declaration, layout⟩, hentry, hitems⟩ := Option.bind_eq_some_iff.mp hfound
  obtain ⟨item, hitem, hfacts⟩ := Option.map_eq_some_iff.mp hitems
  simp only [Prod.mk.injEq] at hfacts
  obtain ⟨hkind, hlive, hnamed⟩ := hfacts
  have hregister : registerTexts {} winchTexts = .ok winchSession := eq_ok_getD hregisters
  have hcompile := eq_ok_of_toOption hcompiled
  cases declaration with
  | table t =>
    have hidents : ((Code.liveFields t).map fun live => Code.fieldIdent live.2.name) =
        ["load", "loads", "load_types"] := by
      rw [← hlive, Declaration.fields, ← Code.map_liveFields, List.map_map]
      rfl
    obtain ⟨i, constants, hemits, _, hconstants, hiff, _⟩ := compile_constants_nodup_iff
      hregister hcompile hentry rfl (by rw [hidents]; decide) [] {} rfl
    cases Except.ok.inj ((eq_ok_of_toOption hitem).symm.trans hemits)
    simp only [hconstants, Option.getD_some] at hnamed
    have hnodup : (constants.map Code.Constant.name).Nodup := by
      rw [hnamed]
      decide
    exact ⟨hregister, compiled, t, layout, i, constants, hcompile, hentry, hemits, hconstants,
      hnodup, hiff.mp hnodup⟩
  | enum e => cases hkind
  | union u => cases hkind
  | struct s => cases hkind

/-- A union and a field that is named like its tag. -/
def sluiceTexts : List (String × String) :=
  [("sluice", "table Gate {} union Part { Gate } table Sluice { part: Part; part_type: ubyte; }")]

def sluiceSession : Session :=
  ((registerTexts {} sluiceTexts).toOption).getD {}

/-- The fields of the table have different identifiers, and one constant is told twice. -/
theorem sluice_constant_twice :
    registerTexts {} sluiceTexts = .ok sluiceSession ∧ ∃ compiled entry i,
      sluiceSession.compile {} = .ok compiled ∧ compiled.get? ⟨[], "Sluice"⟩ = some entry ∧
      Code.item entry [] compiled.unionDiscriminant {} = .ok (.table i) ∧
      i.fields.map Code.FieldItem.ident = ["part", "part_type"] ∧
      i.constants = some [⟨"SIZE", 16⟩, ⟨"ALIGN", 4⟩, ⟨"VTABLE_SIZE", 8⟩, ⟨"VT_PART_TYPE", 4⟩,
        ⟨"VT_PART", 8⟩, ⟨"VT_PART_TYPE", 12⟩] := by
  obtain ⟨hregisters, hcompiles⟩ : (registerTexts {} sluiceTexts).toOption.isSome = true ∧
      ((sluiceSession.compile {}).toOption.bind fun compiled =>
        (compiled.get? ⟨[], "Sluice"⟩).bind fun entry =>
          (Code.item entry [] compiled.unionDiscriminant {}).toOption.map fun item =>
            match item with
            | .table i => (i.fields.map Code.FieldItem.ident, i.constants)
            | _ => ([], none)) =
        some (["part", "part_type"], some [⟨"SIZE", 16⟩, ⟨"ALIGN", 4⟩, ⟨"VTABLE_SIZE", 8⟩,
          ⟨"VT_PART_TYPE", 4⟩, ⟨"VT_PART", 8⟩, ⟨"VT_PART_TYPE", 12⟩]) := by decide +kernel
  obtain ⟨compiled, hcompiled, hfound⟩ := Option.bind_eq_some_iff.mp hcompiles
  obtain ⟨entry, hentry, hitems⟩ := Option.bind_eq_some_iff.mp hfound
  obtain ⟨item, hitem, hshown⟩ := Option.map_eq_some_iff.mp hitems
  cases item with
  | table i =>
    obtain ⟨hfields, hconstants⟩ := Prod.mk.inj hshown
    exact ⟨eq_ok_getD hregisters, compiled, entry, i, eq_ok_of_toOption hcompiled, hentry,
      eq_ok_of_toOption hitem, hfields, hconstants⟩
  | enum i => cases hshown
  | union i => cases hshown
  | struct i => cases hshown

end Session

end WireSchema
