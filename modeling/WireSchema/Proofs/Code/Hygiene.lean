/-
WireSchema.Proofs.Code.Hygiene — when the identifiers of emitted code are usable and keep apart.

A session compares names as they are written. Letter case and underscores are changed behind that,
and only the variants of unions are compared once more, so two constants, two fields or two types
may become one identifier, and a name without letters becomes none. `Compiled.HasCleanNames` says of
the written names that this does not happen; identifiers of fields and modules are always usable,
and those of union members always distinct.

Main statement: `Session.generate_isHygienic_iff`.
-/
import WireSchema.Proofs.Code.Identifier
import WireSchema.Proofs.Code.Partition
import WireSchema.Proofs.Session.Grammatical

namespace WireSchema

open WireSchema.Grammar (IsIdentifier)
open WireSchema.Outcome
open WireSchema.Resolved (Declaration)

/-! ## Emitted scopes -/

namespace Code

/-- The identifiers that an emitted type has inside: its variants or its fields. -/
def Item.members : Item → List String
  | enum i => i.variants.map (·.1)
  | union i => noMember :: i.variants.map (·.1)
  | struct i => i.fields.map (·.ident)
  | table i => i.fields.map (·.ident)

/-- Different identifiers that are no keywords. -/
structure IsScope (idents : List String) : Prop where
  nodup : idents.Nodup
  isIdent : ∀ ident ∈ idents, IsIdent ident

/-- Every type is found at a place of its own, through identifiers, and has a scope inside. -/
structure IsHygienic (definitions : List Definition) : Prop where
  places : (definitions.map (·.place)).Nodup
  modules : ∀ d ∈ definitions, ∀ ident ∈ d.modules, IsIdent ident
  types : ∀ d ∈ definitions, IsIdent d.item.ident
  members : ∀ d ∈ definitions, IsScope d.item.members

end Code

/-! ## Written names -/

/-- Members of a declaration whose names keep apart in code. A deprecated field is not emitted.
Union members that share a name are told apart by their namespaces, which then come first. -/
def Resolved.Declaration.HasCleanMembers : Declaration → Prop
  | enum e => (e.values.Pairwise fun v w => Code.pascalCase v.name ≠ Code.pascalCase w.name) ∧
      ∀ v ∈ e.values, Code.StartsWithLetter [v.name]
  | union u => ∀ member ∈ u.members, ∀ other ∈ u.members, other ≠ member →
      Code.pascalCase other.name = Code.pascalCase member.name →
        Code.StartsWithLetter (member.path ++ [member.name])
  | struct s => s.fields.Pairwise fun f g => ¬ Code.Meet f.name g.name
  | table t => (t.fields.filter fun f => !f.isDeprecated).Pairwise fun f g =>
      ¬ Code.Meet f.name g.name

/-- Two types that are found at one place. -/
def TypeName.Meet (a b : TypeName) : Prop :=
  List.Forall₂ Code.Meet a.path b.path ∧ Code.pascalCase a.name = Code.pascalCase b.name

/-- Names of a compiled session that keep apart in code. -/
structure Compiled.HasCleanNames (compiled : Compiled) : Prop where
  apart : compiled.order.Pairwise fun a b => ¬ a.Meet b
  types : ∀ name ∈ compiled.order, Code.StartsWithLetter [name.name]
  members : ∀ entry ∈ compiled.types.values, entry.declaration.HasCleanMembers

instance : DecidablePred Declaration.HasCleanMembers := fun d =>
  match d with
  | .enum _ => inferInstanceAs (Decidable (_ ∧ _))
  | .union u => inferInstanceAs (Decidable (∀ member ∈ u.members, ∀ other ∈ u.members, _ → _ → _))
  | .struct _ => inferInstanceAs (Decidable (List.Pairwise _ _))
  | .table _ => inferInstanceAs (Decidable (List.Pairwise _ _))

instance : DecidableRel TypeName.Meet := fun _ _ =>
  inferInstanceAs (Decidable (_ ∧ _))

instance : DecidablePred Compiled.HasCleanNames := fun compiled =>
  decidable_of_iff ((compiled.order.Pairwise fun a b => ¬ a.Meet b) ∧
      (∀ name ∈ compiled.order, Code.StartsWithLetter [name.name]) ∧
        ∀ entry ∈ compiled.types.values, entry.declaration.HasCleanMembers)
    ⟨fun h => ⟨h.1, h.2.1, h.2.2⟩, fun h => ⟨h.apart, h.types, h.members⟩⟩

/-- Every name that a declaration shows is an identifier. -/
structure Resolved.Declaration.IsNamed (d : Declaration) : Prop where
  constants : ∀ e, d = .enum e → ∀ v ∈ e.values, IsIdentifier v.name
  members : ∀ u, d = .union u → ∀ member ∈ u.members,
    ∀ name ∈ member.path ++ [member.name], IsIdentifier name
  fields : ∀ f ∈ d.fields, IsIdentifier f.name

/-! ## Scopes inside types -/

namespace Code

theorem isIdent_qualifiedVariant_iff {member : TypeName}
    (h : ∀ name ∈ member.path ++ [member.name], IsIdentifier name) :
    IsIdent (qualifiedVariant member) ↔ StartsWithLetter (member.path ++ [member.name]) := by
  rw [qualifiedVariant, isIdent_escapeKeyword_iff]
  refine isIdentifier_pascal_iff h ?_
  rw [String.toList_append, String.toList_join, List.flatMap_append, List.flatMap_map]
  simp [toList_pascalCase]

/-- The variant chosen for a member among members. -/
def variantAmong (members : List TypeName) (member : TypeName) : String :=
  if 1 < (members.map fun other => typeIdent other.name).count (typeIdent member.name) then
    qualifiedVariant member
  else typeIdent member.name

theorem chosenVariants_eq_map (members : List TypeName) :
    chosenVariants members = members.map (variantAmong members) := by
  rw [chosenVariants, ← List.map_prod_left_eq_zip, List.map_map]
  rfl

/-- A member is named with its namespace where another one has its identifier. -/
theorem variantAmong_eq {members : List TypeName} (hnodup : members.Nodup) {member : TypeName}
    (hmember : member ∈ members) :
    variantAmong members member =
      if ∃ other ∈ members, other ≠ member ∧ typeIdent other.name = typeIdent member.name then
        qualifiedVariant member
      else typeIdent member.name := by
  have hcount : 1 < (members.map fun other => typeIdent other.name).count (typeIdent member.name) ↔
      ∃ other ∈ members, other ≠ member ∧ typeIdent other.name = typeIdent member.name := by
    have hperm := (List.perm_cons_erase hmember).map fun other => typeIdent other.name
    rw [hperm.count_eq, List.map_cons, List.count_cons_self, Nat.lt_add_left_iff_pos,
      List.count_pos_iff, List.mem_map]
    simp only [hnodup.mem_erase_iff, and_assoc, and_left_comm]
  rw [variantAmong]
  exact if_congr hcount rfl rfl

theorem map_liveFields (t : Resolved.Compound) :
    (liveFields t).map (·.2) = t.fields.filter fun f => !f.isDeprecated := by
  have hfields : t.fields.filter (fun f => !f.isDeprecated) =
      (t.fields.zipIdx.map (·.1)).filter fun f => !f.isDeprecated := by
    rw [List.zipIdx_map_fst]
  rw [hfields, liveFields, List.filter_map, List.filter_map, List.map_map]
  rfl

theorem isScope_fields_iff {fields : List Resolved.Field}
    (hnamed : ∀ f ∈ fields, IsIdentifier f.name) :
    IsScope (fields.map fun f => fieldIdent f.name) ↔
      fields.Pairwise fun f g => ¬ Meet f.name g.name := by
  have hnodup : (fields.map fun f => fieldIdent f.name).Nodup ↔
      fields.Pairwise fun f g => ¬ Meet f.name g.name := by
    rw [List.nodup_iff_pairwise_ne, List.pairwise_map]
    simp only [ne_eq, fieldIdent_eq_iff]
  refine ⟨fun hscope => hnodup.mp hscope.nodup, fun hapart => ⟨hnodup.mpr hapart, ?_⟩⟩
  intro ident hident
  obtain ⟨f, hf, rfl⟩ := List.mem_map.mp hident
  exact isIdent_fieldIdent (hnamed f hf)

theorem isScope_constants_iff {values : List Symbol.EnumValue}
    (hnamed : ∀ v ∈ values, IsIdentifier v.name) :
    IsScope (values.map fun v => typeIdent v.name) ↔
      (values.Pairwise fun v w => pascalCase v.name ≠ pascalCase w.name) ∧
        ∀ v ∈ values, StartsWithLetter [v.name] := by
  have hnodup : (values.map fun v => typeIdent v.name).Nodup ↔
      values.Pairwise fun v w => pascalCase v.name ≠ pascalCase w.name := by
    rw [List.nodup_iff_pairwise_ne, List.pairwise_map]
    exact List.Pairwise.iff fun v w => not_congr typeIdent_eq_iff
  have hvalid : (∀ ident ∈ values.map fun v => typeIdent v.name, IsIdent ident) ↔
      ∀ v ∈ values, StartsWithLetter [v.name] := by
    rw [List.forall_mem_map]
    exact forall₂_congr fun v hv => isIdent_typeIdent_iff (hnamed v hv)
  rw [← hnodup, ← hvalid]
  exact ⟨fun hscope => ⟨hscope.nodup, hscope.isIdent⟩, fun h => ⟨h.1, h.2⟩⟩

section Union

variable {u : Resolved.Union} (hdistinct : u.DistinctVariants)

include hdistinct

theorem nodup_members : u.members.Nodup := by
  have hvariants := (List.nodup_cons.mp hdistinct).2
  rw [chosenVariants_eq_map] at hvariants
  exact hvariants.of_map _

/-- The variants of a union differ in any case, so only the shared names matter. -/
theorem isScope_variants_iff
    (hnamed : ∀ member ∈ u.members, ∀ name ∈ member.path ++ [member.name], IsIdentifier name)
    (hstarts : ∀ member ∈ u.members, StartsWithLetter [member.name]) :
    IsScope (noMember :: chosenVariants u.members) ↔ (Declaration.union u).HasCleanMembers := by
  have hname : ∀ member ∈ u.members, IsIdentifier member.name := fun member hmember =>
    hnamed member hmember _ (List.mem_append_right _ (List.mem_singleton_self _))
  have hvariant : ∀ member ∈ u.members, IsIdent (variantAmong u.members member) ↔
      ∀ other ∈ u.members, other ≠ member → pascalCase other.name = pascalCase member.name →
        StartsWithLetter (member.path ++ [member.name]) := by
    intro member hmember
    rw [variantAmong_eq (nodup_members hdistinct) hmember]
    split
    · next hshared =>
      obtain ⟨other, hother, hne, heq⟩ := hshared
      rw [isIdent_qualifiedVariant_iff (hnamed member hmember)]
      exact ⟨fun h _ _ _ _ => h, fun h => h other hother hne (typeIdent_eq_iff.mp heq)⟩
    · next halone =>
      refine iff_of_true ?_ fun other hother hne heq => ?_
      · exact (isIdent_typeIdent_iff (hname member hmember)).mpr (hstarts member hmember)
      · exact absurd ⟨other, hother, hne, typeIdent_eq_iff.mpr heq⟩ halone
  constructor
  · intro hscope member hmember
    refine (hvariant member hmember).mp (hscope.isIdent _ (List.mem_cons_of_mem _ ?_))
    rw [chosenVariants_eq_map]
    exact List.mem_map_of_mem hmember
  · intro hclean
    refine ⟨hdistinct, ?_⟩
    rw [List.forall_mem_cons, chosenVariants_eq_map, List.forall_mem_map]
    exact ⟨by decide, fun member hmember => (hvariant member hmember).mpr (hclean member hmember)⟩

end Union

/-- The item of a declaration has a scope inside where the declaration's names keep apart. -/
theorem Shows.isScope_members_iff {scopePath : List String} {settings : CodeSettings}
    {d : Declaration} {i : Item} (h : Shows scopePath settings d i) (hnamed : d.IsNamed)
    (hstarts : ∀ u, d = .union u → ∀ member ∈ u.members, StartsWithLetter [member.name]) :
    IsScope i.members ↔ d.HasCleanMembers := by
  cases h with
  | enum e =>
    rw [Item.members, enumItem, List.map_map]
    exact isScope_constants_iff (hnamed.constants e rfl)
  | @union u i hdistinct hident hvariants =>
    rw [Item.members, hvariants, List.map_fst_zip (by simp [length_chosenVariants])]
    exact isScope_variants_iff hdistinct (hnamed.members u rfl) (hstarts u rfl)
  | struct hident hfields hinitials =>
    rw [Item.members, hfields, List.map_map]
    exact isScope_fields_iff hnamed.fields
  | @table t i hident hfields hinitials =>
    rw [Item.members, hfields, List.map_map, map_liveFields]
    exact isScope_fields_iff fun f hf => hnamed.fields f (List.mem_filter.mp hf).1

end Code

/-! ## Places of types -/

/-- The modules and the identifier under which a type is found. -/
def TypeName.place (name : TypeName) : List String × String :=
  (name.path.map Code.moduleIdent, Code.typeIdent name.name)

theorem TypeName.place_eq_iff {a b : TypeName} : a.place = b.place ↔ a.Meet b := by
  rw [place, place, Prod.mk.injEq, Code.typeIdent_eq_iff, ← List.forall₂_eq_eq_eq,
    List.forall₂_map_left_iff, List.forall₂_map_right_iff]
  simp only [Code.moduleIdent_eq_iff, Meet]

/-- A definition stands at the place of the type it is made for. -/
theorem Code.Makes.place {compiled : Compiled} {settings : CodeSettings} {name : TypeName}
    {d : Code.Definition} (h : Code.Makes compiled settings name d) : d.place = name.place := by
  rw [Code.Definition.place, h.modules, h.ident, TypeName.place]

namespace Session

variable {session : Session} {settings : CompilerSettings} {compiled : Compiled}
  {declarations : OrderedMap TypeName Declaration}

namespace Compiles

variable (h : session.Compiles settings declarations compiled)

include h

section Named

variable (hgrammatical : ∀ file ∈ session.files.values, file.Grammatical) {key : TypeName}
  {entry : Compiled.TypeEntry} (hentry : compiled.get? key = some entry)

include hgrammatical hentry

theorem isIdentifier_name : IsIdentifier key.name :=
  h.isIdentifier_of_get? hgrammatical hentry _
    (List.mem_append_right _ (List.mem_singleton_self _))

theorem isNamed : entry.declaration.IsNamed := by
  obtain ⟨file, hfile, declared, _, hfind, hmirrors⟩ := h.exists_source hentry
  have hfile := hgrammatical file hfile
  have hholds := SymbolTable.holds_of_find? hfind
  refine ⟨fun e he => ?_, fun u hu member hmember => ?_, fun f hf => ?_⟩
  · rw [he] at hmirrors
    cases hmirrors with
    | enum written => exact hfile.constants _ written hholds
  · obtain ⟨target, htarget, _⟩ := h.exists_table_of_mem_members hentry hu hmember
    exact h.isIdentifier_of_get? hgrammatical htarget
  · obtain ⟨owner, written, hwritten, hsame⟩ :=
      Resolved.exists_hasField_of_mirrors hmirrors hfind hf
    rw [hsame.name]
    exact hfile.fields owner written hwritten

end Named

theorem isIdent_ident_iff (hgrammatical : ∀ file ∈ session.files.values, file.Grammatical)
    {codeSettings : CodeSettings} {name : TypeName} {d : Code.Definition}
    (hmakes : Code.Makes compiled codeSettings name d) :
    Code.IsIdent d.item.ident ↔ Code.StartsWithLetter [name.name] := by
  obtain ⟨entry, hentry, _⟩ := hmakes.made
  rw [hmakes.ident, Code.isIdent_typeIdent_iff (h.isIdentifier_name hgrammatical hentry)]

section Emission

variable (hbuilt : ∀ file ∈ session.files.values, file.Built)
  (hgrammatical : ∀ file ∈ session.files.values, file.Grammatical) {codeSettings : CodeSettings}
  (e : Code.Emission compiled codeSettings)

include hbuilt

/-- A property of definitions that is one of their types holds of all of them as of the order. -/
theorem forall_definitions_iff {P : Code.Definition → Prop} {Q : TypeName → Prop}
    (hiff : ∀ name d, Code.Makes compiled codeSettings name d → (P d ↔ Q name)) :
    (∀ d ∈ e.definitions, P d) ↔ ∀ name ∈ compiled.order, Q name := by
  obtain ⟨names, hperm, hmakes⟩ := (h.emitsOnce hbuilt e).once
  constructor
  · intro hall name hname
    obtain ⟨d, hd, hmade⟩ := exists_of_forall₂_of_mem hmakes.flip (hperm.mem_iff.mpr hname)
    exact (hiff name d hmade).mp (hall d hd)
  · intro hall d hd
    obtain ⟨name, hname, hmade⟩ := exists_of_forall₂_of_mem hmakes hd
    exact (hiff name d hmade).mpr (hall name (hperm.mem_iff.mp hname))

theorem nodup_places_iff : (e.definitions.map (·.place)).Nodup ↔
    compiled.order.Pairwise fun a b => ¬ a.Meet b := by
  obtain ⟨names, hperm, hmakes⟩ := (h.emitsOnce hbuilt e).once
  have hplaces : names.map TypeName.place = e.definitions.map (·.place) := by
    rw [← List.forall₂_eq_eq_eq, List.forall₂_map_left_iff, List.forall₂_map_right_iff]
    exact hmakes.imp fun name d hmade => hmade.place.symm
  rw [← hplaces, (hperm.map _).nodup_iff, List.nodup_iff_pairwise_ne, List.pairwise_map]
  exact List.Pairwise.iff fun a b => not_congr TypeName.place_eq_iff

include hgrammatical

theorem isIdent_of_mem_modules : ∀ d ∈ e.definitions, ∀ ident ∈ d.modules, Code.IsIdent ident := by
  refine (h.forall_definitions_iff hbuilt e fun name d hmakes => iff_true_intro ?_).mpr
    fun _ _ => trivial
  obtain ⟨entry, hentry, _⟩ := hmakes.made
  rw [hmakes.modules, List.forall_mem_map]
  intro segment hsegment
  exact Code.isIdent_moduleIdent
    (h.isIdentifier_of_get? hgrammatical hentry segment (List.mem_append_left _ hsegment))

theorem isScope_members_iff
    (hstarts : ∀ name ∈ compiled.order, Code.StartsWithLetter [name.name]) :
    (∀ d ∈ e.definitions, Code.IsScope d.item.members) ↔
      ∀ entry ∈ compiled.types.values, entry.declaration.HasCleanMembers := by
  rw [h.forall_definitions_iff hbuilt e (Q := fun name => ∀ entry, compiled.get? name = some entry →
    entry.declaration.HasCleanMembers)]
  · constructor
    · intro hall entry hentry
      obtain ⟨name, hentry⟩ := OrderedMap.mem_values_iff.mp hentry
      exact hall name (h.mem_order_iff_get?.mpr ⟨entry, hentry⟩) entry hentry
    · intro hall name _ entry hentry
      exact hall entry (OrderedMap.mem_values_iff.mpr ⟨name, hentry⟩)
  · intro name d hmakes
    obtain ⟨entry, hentry, hmade⟩ := hmakes.made
    have hscope := (Code.shows_of_item hmade).isScope_members_iff (h.isNamed hgrammatical hentry)
      fun u hu member hmember => by
        -- members of a union are types of the session themselves
        obtain ⟨target, htarget, _⟩ := h.exists_table_of_mem_members hentry hu hmember
        exact hstarts member (h.mem_order_iff_get?.mpr ⟨target, htarget⟩)
    rw [hscope]
    simp [hentry]

theorem isHygienic_iff : Code.IsHygienic e.definitions ↔ compiled.HasCleanNames := by
  have hplaces := h.nodup_places_iff hbuilt e
  have htypes := h.forall_definitions_iff hbuilt e fun name d hmakes =>
    h.isIdent_ident_iff hgrammatical hmakes
  have hmembers := h.isScope_members_iff hbuilt hgrammatical e
  constructor
  · intro hhygienic
    have hstarts := htypes.mp hhygienic.types
    exact ⟨hplaces.mp hhygienic.places, hstarts, (hmembers hstarts).mp hhygienic.members⟩
  · intro hclean
    exact ⟨hplaces.mpr hclean.apart, h.isIdent_of_mem_modules hbuilt hgrammatical e,
      htypes.mpr hclean.types, (hmembers hclean.types).mpr hclean.members⟩

end Emission

end Compiles

/-- **Hygiene.** Where code is generated for a compiled session of registered texts, every scope of
it has different identifiers that are no keywords (the types of each module over all files, the
variants and the fields of each type) exactly when the written names keep apart in code and start
with letters. -/
theorem generate_isHygienic_iff {texts : List (String × String)}
    (hregister : registerTexts {} texts = .ok session)
    (hcompile : session.compile settings = .ok compiled) {codeSettings : CodeSettings}
    {outputs : List (String × String)}
    (hgenerate : Code.generate compiled codeSettings = .ok outputs) :
    ∃ e : Code.Emission compiled codeSettings, outputs = e.texts ∧
      (Code.IsHygienic e.definitions ↔ compiled.HasCleanNames) := by
  have hbuilt := built_of_registerTexts hregister
  obtain ⟨declarations, h⟩ := compiles_of_compile hbuilt hcompile
  obtain ⟨e, houtputs⟩ := Code.exists_emission_of_generate hgenerate
  exact ⟨e, houtputs, h.isHygienic_iff hbuilt (grammatical_of_registerTexts hregister) e⟩

/-- A keyword among the namespaces, the fields and the constants, a union of two types of one name,
and a field that only meets a deprecated one. -/
def wharfTexts : List (String × String) :=
  [("wharf", "namespace north.mod;
      table Crane { type: int; _type: int; old: int (deprecated); Old: int; }"),
   ("basin", "namespace south; table Crane {} union load { north.mod.Crane, Crane }
      enum Tide: ubyte { LOW_water, highWater, self }")]

def wharfSession : Session :=
  ((registerTexts {} wharfTexts).toOption).getD {}

theorem wharf_isHygienic :
    registerTexts {} wharfTexts = .ok wharfSession ∧ ∃ compiled outputs,
      wharfSession.compile {} = .ok compiled ∧ Code.generate compiled {} = .ok outputs ∧
      compiled.HasCleanNames ∧
      ∃ e : Code.Emission compiled {}, outputs = e.texts ∧ Code.IsHygienic e.definitions := by
  obtain ⟨hregisters, hgenerates⟩ : (registerTexts {} wharfTexts).toOption.isSome = true ∧
      ((wharfSession.compile {}).toOption.bind fun compiled =>
        (Code.generate compiled {}).toOption.map fun _ => decide compiled.HasCleanNames) =
          some true := by decide +kernel
  obtain ⟨compiled, hcompiled, houtputs⟩ := Option.bind_eq_some_iff.mp hgenerates
  obtain ⟨outputs, hgenerated, hdecided⟩ := Option.map_eq_some_iff.mp houtputs
  have hregister : registerTexts {} wharfTexts = .ok wharfSession := eq_ok_getD hregisters
  have hcompile := eq_ok_of_toOption hcompiled
  have hgenerate := eq_ok_of_toOption hgenerated
  have hclean : compiled.HasCleanNames := of_decide_eq_true hdecided
  obtain ⟨e, htexts, hiff⟩ := generate_isHygienic_iff hregister hcompile hgenerate
  exact ⟨hregister, compiled, outputs, hcompile, hgenerate, hclean, e, htexts, hiff.mpr hclean⟩

/-- Constants, fields and types that become one identifier, and a constant that becomes none. -/
def reefTexts : List (String × String) :=
  [("reef", "enum Tide: ubyte { high, HIGH, _1 } struct Mark { aB: int; a_b: int; }
      table Buoy {} table buoy {}")]

def reefSession : Session :=
  ((registerTexts {} reefTexts).toOption).getD {}

/-- Code is generated with a variant twice, a field twice and a type twice, and with a number for a
variant. -/
theorem reef_not_hygienic :
    registerTexts {} reefTexts = .ok reefSession ∧ ∃ compiled outputs,
      reefSession.compile {} = .ok compiled ∧ Code.generate compiled {} = .ok outputs ∧
      ∃ e : Code.Emission compiled {}, outputs = e.texts ∧
        (e.definitions.map fun d => (d.place, d.item.members)) =
          [(([], "Tide"), ["High", "High", "1"]), (([], "Mark"), ["a_b", "a_b"]),
            (([], "Buoy"), []), (([], "Buoy"), [])] ∧
        ¬ Code.IsHygienic e.definitions := by
  obtain ⟨hregisters, hgenerates⟩ : (registerTexts {} reefTexts).toOption.isSome = true ∧
      ((reefSession.compile {}).toOption.bind fun compiled =>
        (Code.generate compiled {}).toOption.bind fun _ =>
          (compiled.files.mapM fun file =>
            Code.SourceFile.ofCompiled compiled file.path {}).toOption.map fun files =>
              (files.flatMap (·.definitions)).map fun d => (d.place, d.item.members)) =
        some [(([], "Tide"), ["High", "High", "1"]), (([], "Mark"), ["a_b", "a_b"]),
          (([], "Buoy"), []), (([], "Buoy"), [])] := by decide +kernel
  obtain ⟨compiled, hcompiled, houtputs⟩ := Option.bind_eq_some_iff.mp hgenerates
  obtain ⟨outputs, hgenerated, hfiles⟩ := Option.bind_eq_some_iff.mp houtputs
  obtain ⟨files, hfiles, hscopes⟩ := Option.map_eq_some_iff.mp hfiles
  have hgenerate := eq_ok_of_toOption hgenerated
  obtain ⟨e, htexts⟩ := Code.exists_emission_of_generate hgenerate
  obtain rfl : e.files = files := Except.ok.inj (e.emitted.symm.trans (eq_ok_of_toOption hfiles))
  refine ⟨eq_ok_getD hregisters, compiled, outputs, eq_ok_of_toOption hcompiled, hgenerate, e,
    htexts, hscopes, fun hhygienic => ?_⟩
  have hplaces := congrArg (List.map Prod.fst) hscopes
  rw [List.map_map] at hplaces
  exact absurd (hplaces ▸ hhygienic.places) (by decide)

end Session

end WireSchema
