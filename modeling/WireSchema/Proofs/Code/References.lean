/-
WireSchema.Proofs.Code.References — emitted code refers to emitted definitions only.

Names are written in one place and defined in another, often in another file. A path is read back from
its text, inside the modules it stands in (`readPath_typePath`), and `Emission.Denotes` says that it
leads to the definition made for a type. It holds of every path in the code: of field types, of union
members and of the enums in initial values, whose variants are variants of that enum
(`Emission.ClosedItem`). These paths are in the text of the file, which is given as a whole
(`SourceFile.code`).

Main statement: `Session.generate_isClosed`.
-/
import WireSchema.Proofs.Code.Emission
import WireSchema.Proofs.Code.Identifier
import WireSchema.Proofs.Code.Text
import WireSchema.Proofs.Session.Grammatical

namespace WireSchema

open WireSchema.Grammar (IsIdentifier)
open WireSchema.Outcome
open WireSchema.Resolved (Declaration)

namespace Code

/-! ## Definitions and paths -/

/-- A type of the emitted code and the modules around it. -/
structure Definition where
  modules : List String
  item : Item

/-- The modules and the identifier under which a definition is found. -/
def Definition.place (d : Definition) : List String × String :=
  (d.modules, d.item.ident)

/-- From every namespace, the path of a type is read as the modules of its own namespace and its
name. -/
theorem readPath_typePath {target : TypeName}
    (h : ∀ name ∈ target.path ++ [target.name], IsIdentifier name) (scopePath : List String) :
    readPath (scopePath.map moduleIdent) (typePath target scopePath).text =
      (target.path.map moduleIdent, typeIdent target.name) := by
  have hident : ':' ∉ (typeIdent target.name).toList :=
    (colon_not_mem_idents (h _ (List.mem_append_right _ (List.mem_singleton_self _)))).1
  unfold typePath
  split
  · next hsame => rw [readPath_bare _ hident, eq_of_beq hsame]
  · refine readPath_rooted _ (fun part hpart => ?_) hident
    obtain ⟨segment, hsegment, rfl⟩ := List.mem_map.mp hpart
    exact (colon_not_mem_idents (h segment (List.mem_append_left _ hsegment))).2

/-- The code of all files of a compiled session. -/
structure Emission (compiled : Compiled) (settings : CodeSettings) where
  files : List SourceFile
  emitted : (compiled.files.mapM fun file => SourceFile.ofCompiled compiled file.path settings) =
    .ok files

namespace Emission

variable {compiled : Compiled} {settings : CodeSettings} (e : Emission compiled settings)

/-- The paths of the files with their texts. -/
def texts : List (String × String) :=
  e.files.map fun file => (file.path, file.text)

/-- Everything the files define. -/
def definitions : List Definition :=
  e.files.flatMap fun file => file.items.map fun i => ⟨file.modules, i⟩

/-- A written path, read inside some modules, leads to the definition that was made for a type. -/
structure Denotes (around : List String) (written : String) (target : TypeName) (d : Definition) :
    Prop where
  mem : d ∈ e.definitions
  place : readPath around written = d.place
  modules : d.modules = target.path.map moduleIdent
  made : ∃ entry, compiled.get? target = some entry ∧
    item entry target.path compiled.unionDiscriminant settings = .ok d.item

/-! ## Closed code -/

/-- What is written for the type of a field: a native name, or a path to the field's type. -/
def NamesType (around : List String) (f : Resolved.Field) (written : String) : Prop :=
  (∃ p, f.type.kind = .primitive p ∧ written = p.nativeName) ∨
    (∀ p, f.type.kind ≠ .primitive p) ∧ ∃ d, e.Denotes around written f.type.name d

/-- What is written for a value of a field: a native value, or a variant of the enum that is the
field's type. -/
def NamesValue (around : List String) (f : Resolved.Field) (written : String) : Prop :=
  (∃ p, f.type.kind = .primitive p) ∨ f.type.kind = .enum ∧ ∃ path ident d enum,
    written = path ++ "::" ++ ident ∧ e.Denotes around path f.type.name d ∧ d.item = .enum enum ∧
      ident ∈ enum.variants.map (·.1)

/-- What is written for an initial value: only a field without default falls back. -/
def NamesInitial (around : List String) (wrap : String → String) (f : Resolved.Field)
    (written : String) : Prop :=
  (f.default = none ∧ written = "Default::default()") ∨
    f.default.isSome = true ∧ ∃ value, e.NamesValue around f value ∧ written = wrap value

/-- Fields with the types and the initial values that are written for them. -/
structure ClosedFields (around : List String) (hold : Resolved.Field → String → String)
    (wrap : String → String) (fields : List Resolved.Field) (items : List FieldItem)
    (initials : Option (List (String × Initial))) : Prop where
  types : List.Forall₂ (fun f i => ∃ written, e.NamesType around f written ∧
    i.typeText = hold f written) fields items
  initials : ∀ values, initials = some values →
    List.Forall₂ (fun f value => e.NamesInitial around wrap f value.2.text) fields values

/-- Whatever the item of a declaration refers to is defined. A table holds arrays in vectors and all
but unions as options. -/
inductive ClosedItem (around : List String) : Declaration → Item → Prop
  | enum {d : Resolved.Enum} {i : EnumItem} : ClosedItem around (.enum d) (.enum i)
  | union {u : Resolved.Union} {i : UnionItem}
      (hmembers : List.Forall₂ (fun member variant => ∃ d, e.Denotes around variant.2.text member d)
        u.members i.variants) : ClosedItem around (.union u) (.union i)
  | struct {s : Resolved.Compound} {i : StructItem}
      (hfields : e.ClosedFields around (fun _ written => written) (fun value => value) s.fields
        i.fields i.initials) :
      ClosedItem around (.struct s) (.struct i)
  | table {t : Resolved.Compound} {i : TableItem}
      (hfields : e.ClosedFields around
        (fun f written => if f.isArray then "Vec<" ++ written ++ ">"
          else if f.type.kind = .union then written else "Option<" ++ written ++ ">")
        (fun value => "Some(" ++ value ++ ")") ((liveFields t).map (·.2)) i.fields i.initials) :
      ClosedItem around (.table t) (.table i)

/-- A file stands in the modules of its namespace, has a closed item for each of its types, and is
written as the texts of these. -/
structure ClosedFile (source : Compiled.File) (file : SourceFile) : Prop where
  frame : file = .ofItems source settings file.items
  text : file.text ++ "\n" = file.code
  items : List.Forall₂ (fun name i => i.ident = typeIdent name.name ∧
    ∃ entry, compiled.get? name = some entry ∧ e.ClosedItem file.modules entry.declaration i)
    source.order file.items

/-- All files are closed. -/
def IsClosed : Prop :=
  List.Forall₂ e.ClosedFile compiled.files e.files

end Emission

/-! ## Items of entries -/

theorem Shows.ident {scopePath : List String} {settings : CodeSettings} {d : Declaration} {i : Item}
    (h : Shows scopePath settings d i) : i.ident = typeIdent d.name.name := by
  cases h with
  | enum e => rfl
  | union hdistinct hident hvariants => exact hident
  | struct hident hfields hinitials => exact hident
  | table hident hfields hinitials => exact hident

theorem forall₂_of_initials {wrap : Value → Initial} {scopePath : List String}
    {fields : List Resolved.Field} {values : List (String × Initial)}
    (h : initials wrap scopePath fields = .ok (some values)) :
    List.Forall₂ (fun f value => initial wrap scopePath f = .ok value) fields values := by
  unfold initials at h
  split at h
  · obtain ⟨values', hvalues, heq⟩ := map_eq_ok_iff.mp h
    cases heq
    exact mapM_eq_ok_iff.mp hvalues
  · cases h

/-- An initial value is the fallback of a field without default, or its default. -/
theorem cases_of_initial {wrap : Value → Initial} {scopePath : List String} {f : Resolved.Field}
    {result : String × Initial} (h : initial wrap scopePath f = .ok result) :
    (f.default = none ∧ result.2 = .fallback) ∨ ∃ literal value, f.default = some literal ∧
      defaultValue? f literal scopePath = some value ∧ result.2 = wrap value := by
  unfold initial at h
  split at h
  · next hnone =>
    cases h
    exact .inl ⟨hnone, rfl⟩
  · next literal hliteral =>
    split at h
    · next value hvalue =>
      cases h
      exact .inr ⟨literal, value, hliteral, hvalue, rfl⟩
    · cases h

/-- Native values are written for native fields, and variants for enums. -/
theorem cases_of_defaultValue? {f : Resolved.Field} {literal : Literal} {scopePath : List String}
    {value : Value} (h : defaultValue? f literal scopePath = some value) :
    (∃ p text, f.type.kind = .primitive p ∧ value = .verbatim text) ∨
      f.type.kind = .enum ∧
        value = .variant (typePath f.type.name scopePath) (typeIdent literal.text) := by
  unfold defaultValue? at h
  split at h
  · next hkind => exact .inr ⟨hkind, (Option.some.inj h).symm⟩
  · next p hkind =>
    refine .inl ⟨p, ?_⟩
    split at h <;> cases h <;> exact ⟨_, hkind, rfl⟩
  all_goals cases h

theorem typeText_tableHolder (f : Resolved.Field) (ident : String) (type : BaseType) :
    (FieldItem.mk ident (tableHolder f) type).typeText =
      if f.isArray then "Vec<" ++ type.text ++ ">"
      else if f.type.kind = .union then type.text else "Option<" ++ type.text ++ ">" := by
  unfold FieldItem.typeText tableHolder
  split_ifs <;> simp_all

/-! ## Files -/

theorem ofCompiled_eq_ok_iff {compiled : Compiled} {source : Compiled.File}
    (h : compiled.file? source.path = some source) {settings : CodeSettings} {file : SourceFile} :
    SourceFile.ofCompiled compiled source.path settings = .ok file ↔ ∃ items,
      source.order.mapM (namedItem compiled source.scopePath settings) = .ok items ∧
        file = .ofItems source settings items := by
  rw [ofCompiled_eq_bind h, bind_eq_ok_iff]
  simp only [Except.ok.injEq, eq_comm, SourceFile.ofItems]

theorem text_with_path (compiled : Compiled) (path : String) (settings : CodeSettings) :
    (do return (path, ← text compiled path settings)) =
      (fun file : SourceFile => (file.path, file.text)) <$>
        SourceFile.ofCompiled compiled path settings := by
  cases hfile : compiled.file? path with
  | none =>
    simp only [text, SourceFile.ofCompiled, hfile]
    rfl
  | some file =>
    rw [text, ofCompiled_eq_bind hfile]
    cases file.order.mapM (namedItem compiled file.scopePath settings) <;> rfl

/-- Generated texts are the texts of emitted files. -/
theorem exists_emission_of_generate {compiled : Compiled} {settings : CodeSettings}
    {outputs : List (String × String)} (h : generate compiled settings = .ok outputs) :
    ∃ e : Emission compiled settings, outputs = e.texts := by
  simp only [generate, text_with_path, mapM_map] at h
  obtain ⟨files, hfiles, rfl⟩ := map_eq_ok_iff.mp h
  exact ⟨⟨files, hfiles⟩, rfl⟩

end Code

namespace Session

variable {session : Session} {settings : CompilerSettings} {compiled : Compiled}
  {declarations : OrderedMap TypeName Declaration}

namespace Compiles

variable (h : session.Compiles settings declarations compiled)

include h

theorem name_of_get? {name : TypeName} {entry : Compiled.TypeEntry}
    (hentry : compiled.get? name = some entry) : entry.declaration.name = name := by
  obtain ⟨hd, _⟩ := (h.get?_iff name entry).mp hentry
  exact h.resolves.own_names _ (OrderedMap.get?_eq_some_iff.mp hd)

theorem isIdentifier_of_get? (hgrammatical : ∀ file ∈ session.files.values, file.Grammatical)
    {key : TypeName} {entry : Compiled.TypeEntry} (hentry : compiled.get? key = some entry) :
    ∀ name ∈ key.path ++ [key.name], IsIdentifier name := by
  obtain ⟨file, hfile, declared, hpath, hfind, _⟩ := h.exists_source hentry
  have hfile := hgrammatical file hfile
  intro name hname
  rcases List.mem_append.mp hname with hname | hname
  · exact hfile.scopePath name (hpath ▸ hname)
  · rw [List.mem_singleton.mp hname]
    exact hfile.typeName _ _ (SymbolTable.holds_of_find? hfind)

variable (hbuilt : ∀ file ∈ session.files.values, file.Built)
  (hgrammatical : ∀ file ∈ session.files.values, file.Grammatical) {codeSettings : CodeSettings}
  (e : Code.Emission compiled codeSettings)

include hbuilt hgrammatical

/-- From every namespace, the path of a type leads to the definition made for it. -/
theorem exists_denotes {target : TypeName} {entry : Compiled.TypeEntry}
    (hentry : compiled.get? target = some entry) (scopePath : List String) :
    ∃ d, e.Denotes (scopePath.map Code.moduleIdent) (Code.typePath target scopePath).text target
      d := by
  obtain ⟨source, hsource, hname, hpath⟩ := h.exists_file_of_get? hbuilt hentry
  obtain ⟨file, hfile⟩ := exists_mapM_eq_ok_iff.mp ⟨_, e.emitted⟩ source hsource
  obtain ⟨items, hitems, rfl⟩ :=
    (Code.ofCompiled_eq_ok_iff (h.file?_eq_some_iff.mpr ⟨hsource, rfl⟩)).mp hfile
  obtain ⟨i, hi⟩ := exists_mapM_eq_ok_iff.mp ⟨_, hitems⟩ target hname
  have hmade := Code.namedItem_of_get? hentry source.scopePath codeSettings ▸ hi
  have hident := (Code.shows_of_item hmade).ident
  rw [hpath] at hmade
  refine ⟨⟨source.scopePath.map Code.moduleIdent, i⟩, ?_, ?_, by rw [hpath], entry, hentry, hmade⟩
  · have hmem := (mem_iff_of_mapM_eq_ok e.emitted).mpr ⟨source, hsource, hfile⟩
    have hlisted := (mem_iff_of_mapM_eq_ok hitems).mpr ⟨target, hname, hi⟩
    exact List.mem_flatMap.mpr ⟨_, hmem, List.mem_map.mpr ⟨i, hlisted, rfl⟩⟩
  · rw [Code.readPath_typePath (h.isIdentifier_of_get? hgrammatical hentry), Code.Definition.place,
      hident, h.name_of_get? hentry, hpath]

section Fields

variable {key : TypeName} {entry : Compiled.TypeEntry} (hentry : compiled.get? key = some entry)
  (scopePath : List String) {f : Resolved.Field} (hf : f ∈ entry.declaration.fields)

include hentry hf

theorem namesType :
    e.NamesType (scopePath.map Code.moduleIdent) f (Code.baseType f scopePath).text := by
  rcases (h.isClosedOver hbuilt).fieldTypes key entry hentry f hf with
    ⟨p, hp⟩ | ⟨target, htarget, hkind⟩
  · refine .inl ⟨p, hp, ?_⟩
    rw [Code.baseType, hp]
    rfl
  · have hnamed : Code.baseType f scopePath = .named (Code.typePath f.type.name scopePath) ∧
        ∀ p, f.type.kind ≠ .primitive p := by
      rw [Code.baseType, ← hkind]
      cases target.declaration <;> exact ⟨rfl, nofun⟩
    rw [hnamed.1]
    exact .inr ⟨hnamed.2, h.exists_denotes hbuilt hgrammatical e htarget scopePath⟩

theorem namesValue {literal : Literal} (hliteral : f.default = some literal) {value : Code.Value}
    (hvalue : Code.defaultValue? f literal scopePath = some value) :
    e.NamesValue (scopePath.map Code.moduleIdent) f value.text := by
  rcases Code.cases_of_defaultValue? hvalue with ⟨p, text, hkind, rfl⟩ | ⟨hkind, rfl⟩
  · exact .inl ⟨p, hkind⟩
  · obtain ⟨file, hfile, written, declared, hresolve, hdeclared, htakes⟩ :=
      h.exists_declared_of_mem_fields hentry hf
    rcases htakes literal hliteral with ⟨enum, constant, rfl, rfl, hconstant⟩ | ⟨p, rfl, _⟩
    · -- The constant is one of the enum as written, and the entry of the enum mirrors it.
      obtain ⟨owner, howner, hpath, hfind⟩ :=
        declares_of_resolve? hfile hresolve (by simp [Symbol.Declared.kind])
      obtain ⟨⟨declaration, layout⟩, htarget, hmirrors⟩ := h.exists_mirror howner hfind
      rw [hpath] at htarget
      obtain ⟨d, hd⟩ := h.exists_denotes hbuilt hgrammatical e htarget scopePath
      obtain ⟨_, hfound, hmade⟩ := hd.made
      cases htarget.symm.trans hfound
      cases hmirrors with
      | enum =>
        obtain ⟨v, hv, rfl⟩ := List.mem_map.mp hconstant
        refine .inr ⟨hkind, _, _, d, _, rfl, hd, (Except.ok.inj hmade).symm, ?_⟩
        exact List.mem_map.mpr ⟨_, List.mem_map.mpr ⟨v, hv, rfl⟩, rfl⟩
    · rw [hkind] at hdeclared
      cases hdeclared

theorem namesInitial {wrap : Code.Value → Code.Initial} {wrapText : String → String}
    (hwrap : ∀ value, (wrap value).text = wrapText value.text)
    {result : String × Code.Initial} (hresult : Code.initial wrap scopePath f = .ok result) :
    e.NamesInitial (scopePath.map Code.moduleIdent) wrapText f result.2.text := by
  rcases Code.cases_of_initial hresult with
    ⟨hnone, hfallback⟩ | ⟨literal, value, hliteral, hvalue, hwrapped⟩
  · rw [hfallback]
    exact .inl ⟨hnone, rfl⟩
  · rw [hwrapped, hwrap]
    exact .inr ⟨by rw [hliteral]; rfl, _,
      h.namesValue hbuilt hgrammatical e hentry scopePath hf hliteral hvalue, rfl⟩

end Fields

/-- The fields of an entry, all or some of them, are closed as they are emitted. -/
theorem closedFields {key : TypeName} {entry : Compiled.TypeEntry}
    (hentry : compiled.get? key = some entry) {scopePath : List String}
    {fields : List Resolved.Field} (hfields : ∀ f ∈ fields, f ∈ entry.declaration.fields)
    {holder : Resolved.Field → Code.Holder} {hold : Resolved.Field → String → String}
    (hhold : ∀ f ident type, (Code.FieldItem.mk ident (holder f) type).typeText = hold f type.text)
    {wrap : Code.Value → Code.Initial} {wrapText : String → String}
    (hwrap : ∀ value, (wrap value).text = wrapText value.text)
    {initials : Option (List (String × Code.Initial))}
    (hinitials : Code.initials wrap scopePath fields = .ok initials) :
    e.ClosedFields (scopePath.map Code.moduleIdent) hold wrapText fields
      (fields.map fun f => ⟨Code.fieldIdent f.name, holder f, Code.baseType f scopePath⟩)
      initials where
  types := by
    rw [List.forall₂_map_right_iff, List.forall₂_same]
    intro f hf
    exact ⟨_, h.namesType hbuilt hgrammatical e hentry scopePath (hfields f hf), hhold f _ _⟩
  initials values hvalues := by
    rw [hvalues] at hinitials
    have hall := (List.forall₂_and_left _ _).mpr ⟨hfields, Code.forall₂_of_initials hinitials⟩
    exact hall.imp fun f value hboth =>
      h.namesInitial hbuilt hgrammatical e hentry scopePath hboth.1 hwrap hboth.2

theorem closedMembers {key : TypeName} {entry : Compiled.TypeEntry} {u : Resolved.Union}
    (hentry : compiled.get? key = some entry) (hunion : entry.declaration = .union u)
    (scopePath : List String) :
    List.Forall₂
      (fun member variant => ∃ d, e.Denotes (scopePath.map Code.moduleIdent) variant.2.text member d)
      u.members ((Code.chosenVariants u.members).zip
        (u.members.map fun member => Code.typePath member scopePath)) := by
  -- Only the paths matter, so the variants' names are dropped first.
  have hpaths : List.Forall₂
      (fun member path => ∃ d, e.Denotes (scopePath.map Code.moduleIdent) path.text member d)
      u.members (((Code.chosenVariants u.members).zip
        (u.members.map fun member => Code.typePath member scopePath)).map (·.2)) := by
    rw [List.map_snd_zip (by simp [Code.length_chosenVariants]), List.forall₂_map_right_iff,
      List.forall₂_same]
    intro member hmember
    obtain ⟨target, htarget, _⟩ := h.exists_table_of_mem_members hentry hunion hmember
    exact h.exists_denotes hbuilt hgrammatical e htarget scopePath
  exact List.forall₂_map_right_iff.mp hpaths

/-- The item of an entry is closed. -/
theorem closedItem {key : TypeName} {entry : Compiled.TypeEntry}
    (hentry : compiled.get? key = some entry) {scopePath : List String} {i : Code.Item}
    (hshows : Code.Shows scopePath codeSettings entry.declaration i) :
    e.ClosedItem (scopePath.map Code.moduleIdent) entry.declaration i := by
  obtain ⟨declaration, layout⟩ := entry
  cases hshows with
  | enum => exact .enum
  | union hdistinct hident hvariants =>
    refine .union ?_
    rw [hvariants]
    exact h.closedMembers hbuilt hgrammatical e hentry rfl scopePath
  | struct hident hfields hinitials =>
    refine .struct ?_
    rw [hfields]
    exact h.closedFields hbuilt hgrammatical e hentry (fun _ hf => hf) (fun _ _ _ => rfl)
      (fun _ => rfl) hinitials
  | table hident hfields hinitials =>
    refine .table ?_
    rw [hfields]
    exact h.closedFields hbuilt hgrammatical e hentry (fun _ => Code.mem_fields_of_mem_liveFields)
      Code.typeText_tableHolder (fun _ => rfl) hinitials

/-- All files of an emission are closed. -/
theorem isClosed : e.IsClosed := by
  have hall := (List.forall₂_and_left _ _).mpr
    ⟨fun _ hsource => hsource, mapM_eq_ok_iff.mp e.emitted⟩
  refine hall.imp fun source file hboth => ?_
  obtain ⟨hsource, hfile⟩ := hboth
  obtain ⟨items, hitems, rfl⟩ :=
    (Code.ofCompiled_eq_ok_iff (h.file?_eq_some_iff.mpr ⟨hsource, rfl⟩)).mp hfile
  refine ⟨rfl, Code.SourceFile.text_append_newline _,
    (mapM_eq_ok_iff.mp hitems).imp fun name i hi => ?_⟩
  obtain ⟨entry, hentry, hmade⟩ := Code.exists_entry_of_namedItem hi
  have hshows := Code.shows_of_item hmade
  refine ⟨?_, entry, hentry, h.closedItem hbuilt hgrammatical e hentry hshows⟩
  rw [hshows.ident, h.name_of_get? hentry]

end Compiles

/-- **Closed references.** Where code is generated for a compiled session of registered texts, every
file is written as the texts of its types, in the modules of its namespace, and whatever these refer
to, read from there as it is written, is the definition made for the type that is meant. -/
theorem generate_isClosed {texts : List (String × String)}
    (hregister : registerTexts {} texts = .ok session)
    (hcompile : session.compile settings = .ok compiled) {codeSettings : CodeSettings}
    {outputs : List (String × String)}
    (hgenerate : Code.generate compiled codeSettings = .ok outputs) :
    ∃ e : Code.Emission compiled codeSettings, outputs = e.texts ∧ e.IsClosed := by
  have hbuilt := built_of_registerTexts hregister
  obtain ⟨declarations, h⟩ := compiles_of_compile hbuilt hcompile
  obtain ⟨e, houtputs⟩ := Code.exists_emission_of_generate hgenerate
  exact ⟨e, houtputs, h.isClosed hbuilt (grammatical_of_registerTexts hregister) e⟩

/-- A namespace that is a keyword, names in other cases, and defaults across namespaces. -/
def portTexts : List (String × String) :=
  [("berth", "namespace port.mod; union cargo { berth_list }
      table berth_list { slot: [Slot]; tide: Tide = HIGH; old: int (deprecated); }"),
   ("tide", "namespace port; enum Tide: ubyte { LOW, HIGH } struct Slot { tide: Tide = LOW; }")]

def portSession : Session :=
  ((registerTexts {} portTexts).toOption).getD {}

theorem port_isClosed :
    registerTexts {} portTexts = .ok portSession ∧ ∃ compiled outputs,
      portSession.compile {} = .ok compiled ∧ Code.generate compiled {} = .ok outputs ∧
      outputs.length = 2 ∧
      ∃ e : Code.Emission compiled {}, outputs = e.texts ∧ e.IsClosed := by
  obtain ⟨hregisters, hgenerates⟩ : (registerTexts {} portTexts).toOption.isSome = true ∧
      ((portSession.compile {}).toOption.bind fun compiled =>
        (Code.generate compiled {}).toOption.map List.length) = some 2 := by decide +kernel
  obtain ⟨compiled, hcompiled, houtputs⟩ := Option.bind_eq_some_iff.mp hgenerates
  obtain ⟨outputs, hgenerated, hlength⟩ := Option.map_eq_some_iff.mp houtputs
  have hregister : registerTexts {} portTexts = .ok portSession := eq_ok_getD hregisters
  have hcompile := eq_ok_of_toOption hcompiled
  have hgenerate := eq_ok_of_toOption hgenerated
  exact ⟨hregister, compiled, outputs, hcompile, hgenerate, hlength,
    generate_isClosed hregister hcompile hgenerate⟩

end Session

end WireSchema
