/-
WireSchema.Proofs.Code.Partition — every type is emitted once, in its own file, behind what it uses.

The files of a compiled session cut its order into slices. A slice is chosen by what a file
declares, and files may share a namespace, so that no name is lost or listed twice rests on the rule
that qualified names are unique (`Compiles.eq_of_mem_order`). Emitted code follows the slices item
by item, and so does its text: the texts of the types of a slice stand in its file one behind the
other (`SourceFile.code`).

Main statement: `Session.compile_partitions_order`.
-/
import WireSchema.Proofs.Code.References

namespace WireSchema

open WireSchema.Order
open WireSchema.Outcome
open WireSchema.Resolved (Declaration)

/-! ## Slices of an order -/

/-- A type that a declaration names: a member of a union, or the type of a field that is no
primitive. -/
inductive Resolved.Declaration.Uses (target : TypeName) : Declaration → Prop
  | member {u : Union} (hmember : target ∈ u.members) : Uses target (.union u)
  | field {d : Declaration} {f : Field} (hf : f ∈ d.fields)
      (hkind : ∀ p, f.type.kind ≠ .primitive p) (hname : f.type.name = target) : Uses target d

namespace Compiled

/-- The declaration under a name uses a type. -/
def Uses (compiled : Compiled) (name target : TypeName) : Prop :=
  ∃ entry, compiled.get? name = some entry ∧ entry.declaration.Uses target

/-- A compiled file lists the types that a file declares, in the order of the session, each behind
those of the list that it uses. -/
structure IsSlice (compiled : Compiled) (file : SymbolTable) (result : File) : Prop where
  scopePath : result.scopePath = file.scopePath
  sublist : result.order.Sublist compiled.order
  mem_order_iff : ∀ name, name ∈ result.order ↔
    name.path = file.scopePath ∧ ∃ declared, file.Holds name.name declared
  behind : ∀ name ∈ result.order, ∀ target ∈ result.order, compiled.Uses name target →
    [target, name].Sublist result.order

/-- Every name of the order is listed by exactly one file, and the files list nothing else. -/
structure IsPartitioned (compiled : Compiled) (session : Session) : Prop where
  nodup : compiled.order.Nodup
  slices : List.Forall₂ (fun entry result => result.path = entry.1 ∧
    compiled.IsSlice entry.2 result) session.files.entries compiled.files
  once : ∀ name ∈ compiled.order, ∃! result, result ∈ compiled.files ∧ name ∈ result.order
  perm : (compiled.files.flatMap (·.order)).Perm compiled.order

end Compiled

namespace Code

/-- What a file defines. -/
def SourceFile.definitions (file : SourceFile) : List Definition :=
  file.items.map fun i => ⟨file.modules, i⟩

/-- A definition is made from the entry of a type, under its name, and stands in the modules of its
namespace. -/
structure Makes (compiled : Compiled) (settings : CodeSettings) (name : TypeName)
    (d : Definition) : Prop where
  modules : d.modules = name.path.map moduleIdent
  ident : d.item.ident = typeIdent name.name
  made : ∃ entry, compiled.get? name = some entry ∧
    item entry name.path compiled.unionDiscriminant settings = .ok d.item

/-- A file is written as what stands in front, the texts of the types of its order, in order, and
what closes it. -/
structure EmitsOrder (compiled : Compiled) (settings : CodeSettings) (source : Compiled.File)
    (file : SourceFile) : Prop where
  frame : file = .ofItems source settings file.items
  made : List.Forall₂ (Makes compiled settings) source.order file.definitions
  text : file.text ++ "\n" = file.code

/-- Each file emits its order, and all files together define every type once. -/
structure Emission.EmitsOnce {compiled : Compiled} {settings : CodeSettings}
    (e : Emission compiled settings) : Prop where
  files : List.Forall₂ (EmitsOrder compiled settings) compiled.files e.files
  once : ∃ names : List TypeName, names.Perm compiled.order ∧
    List.Forall₂ (Makes compiled settings) names e.definitions

end Code

namespace Session

variable {session : Session} {settings : CompilerSettings} {compiled : Compiled}
  {declarations : OrderedMap TypeName Declaration}

namespace Resolves

variable (h : session.Resolves declarations)

include h

/-- In an established order, whatever a declaration uses stands in front of it. -/
theorem mem_before_of_uses {before after : List TypeName} {name target : TypeName}
    (horder : establish declarations = .ok (before ++ name :: after)) {d : Declaration}
    (hd : declarations.get? name = some d) (huses : d.Uses target) : target ∈ before := by
  cases huses with
  | member hmember =>
    exact mem_before_of_dependsOn h.own_names h.enumFree horder
      (h.dependsOn_of_mem_references hd hmember)
  | field hf hkind hname =>
    subst hname
    cases d with
    | enum e => cases hf
    | union u => cases hf
    | struct s => exact h.mem_before_of_field horder hd (.inl rfl) hf hkind
    | table t => exact h.mem_before_of_field horder hd (.inr rfl) hf hkind

end Resolves

namespace Compiles

variable (h : session.Compiles settings declarations compiled)

include h

theorem nodup_order : compiled.order.Nodup :=
  h.resolves.nodup_order h.order

theorem mem_order_iff_get? {name : TypeName} :
    name ∈ compiled.order ↔ ∃ entry, compiled.get? name = some entry := by
  rw [← h.keys]
  exact OrderedMap.mem_keys_iff

/-- Along the order of the session, a type stands behind what it uses. -/
theorem sublist_of_uses {name target : TypeName} (huses : compiled.Uses name target) :
    [target, name].Sublist compiled.order := by
  obtain ⟨entry, hentry, huses⟩ := huses
  obtain ⟨hd, _⟩ := (h.get?_iff name entry).mp hentry
  obtain ⟨before, after, hsplit⟩ :=
    List.append_of_mem (h.mem_order_iff_get?.mpr ⟨entry, hentry⟩)
  have horder := h.order
  rw [hsplit] at horder ⊢
  have htarget : target ∈ before := h.resolves.mem_before_of_uses horder hd huses
  exact (List.singleton_sublist.mpr htarget).append
    (List.singleton_sublist.mpr List.mem_cons_self)

variable (hbuilt : ∀ file ∈ session.files.values, file.Built)

include hbuilt

theorem isSlice {path : String} {file : SymbolTable} (hfile : session.file? path = some file)
    {result : Compiled.File}
    (hresult : Compiled.fileOf session compiled.order path file = .ok result) :
    compiled.IsSlice file result := by
  have hmem : ∀ name, name ∈ result.order ↔
      name.path = file.scopePath ∧ ∃ declared, file.Holds name.name declared := by
    intro name
    rw [h.mem_order_iff hbuilt hfile hresult, eq_comm]
  obtain ⟨roots, _, rfl⟩ := Compiled.fileOf_eq_ok_iff.mp hresult
  refine ⟨rfl, List.filter_sublist, hmem, fun name hname target htarget huses => ?_⟩
  -- both names pass the filter that made the order, so it keeps their places
  have hkept := (h.sublist_of_uses huses).filter (Rules.ownNames file).contains
  rwa [List.filter_eq_self.mpr] at hkept
  simp only [List.forall_mem_cons, List.not_mem_nil, false_implies, implies_true, and_true]
  exact ⟨(List.mem_filter.mp htarget).2, (List.mem_filter.mp hname).2⟩

/-- No two files list the same name, though they may share its namespace. -/
theorem eq_of_mem_order {first second : Compiled.File} (hfirst : first ∈ compiled.files)
    (hsecond : second ∈ compiled.files) {name : TypeName} (hname : name ∈ first.order)
    (hname' : name ∈ second.order) : first = second := by
  obtain ⟨file, hfile, hresult⟩ := h.mem_files_iff.mp hfirst
  obtain ⟨file', hfile', hresult'⟩ := h.mem_files_iff.mp hsecond
  obtain ⟨hpath, declared, hholds⟩ := (h.mem_order_iff hbuilt hfile hresult).mp hname
  obtain ⟨hpath', declared', hholds'⟩ := (h.mem_order_iff hbuilt hfile' hresult').mp hname'
  have hsame : first.path = second.path :=
    (Rules.names_nodup_iff hbuilt).mp h.resolves.verified.unique _ _ file file' hfile hfile'
      (hpath.trans hpath'.symm) _ _ _ hholds hholds'
  have hfound := h.file?_eq_some_iff.mpr ⟨hfirst, hsame⟩
  exact Option.some.inj (hfound.symm.trans (h.file?_eq_some_iff.mpr ⟨hsecond, rfl⟩))

/-- The orders of all files are the order of the session, cut and rearranged. -/
theorem perm_flatMap_order : (compiled.files.flatMap (·.order)).Perm compiled.order := by
  have hslices : ∀ result ∈ compiled.files, result.order.Sublist compiled.order := by
    intro result hresult
    obtain ⟨file, hfile, hfileOf⟩ := h.mem_files_iff.mp hresult
    exact (h.isSlice hbuilt hfile hfileOf).sublist
  have hnodup : (compiled.files.flatMap (·.order)).Nodup := by
    have hpaths : (compiled.files.map (·.path)).Nodup := h.map_path_files ▸ session.files.nodup
    rw [List.nodup_flatMap]
    refine ⟨fun result hresult => (hslices result hresult).nodup h.nodup_order, ?_⟩
    refine (List.pairwise_map.mp hpaths).imp_of_mem fun hfirst hsecond hne => ?_
    intro name hname hname'
    exact hne (congrArg _ (h.eq_of_mem_order hbuilt hfirst hsecond hname hname'))
  rw [List.perm_ext_iff_of_nodup hnodup h.nodup_order]
  intro name
  rw [List.mem_flatMap]
  constructor
  · rintro ⟨result, hresult, hname⟩
    exact (hslices result hresult).subset hname
  · intro hname
    obtain ⟨entry, hentry⟩ := h.mem_order_iff_get?.mp hname
    obtain ⟨result, hresult, hlisted, _⟩ := h.exists_file_of_get? hbuilt hentry
    exact ⟨result, hresult, hlisted⟩

theorem isPartitioned : compiled.IsPartitioned session where
  nodup := h.nodup_order
  slices := by
    have hall := (List.forall₂_and_left _ _).mpr
      ⟨fun _ hentry => hentry, mapM_eq_ok_iff.mp h.files⟩
    refine hall.imp fun entry result hboth => ?_
    obtain ⟨hentry, hresult⟩ := hboth
    refine ⟨?_, h.isSlice hbuilt (OrderedMap.get?_eq_some_iff.mpr hentry) hresult⟩
    obtain ⟨roots, _, rfl⟩ := Compiled.fileOf_eq_ok_iff.mp hresult
    rfl
  once name hname := by
    obtain ⟨result, hresult, hlisted⟩ :=
      List.mem_flatMap.mp ((h.perm_flatMap_order hbuilt).mem_iff.mpr hname)
    refine ⟨result, ⟨hresult, hlisted⟩, ?_⟩
    rintro other ⟨hother, hlisted'⟩
    exact h.eq_of_mem_order hbuilt hother hresult hlisted' hlisted
  perm := h.perm_flatMap_order hbuilt

/-! ## Emitted slices -/

/-- The code of a file has one definition for each name of the file's order. -/
theorem emitsOrder {source : Compiled.File} (hsource : source ∈ compiled.files)
    {codeSettings : CodeSettings} {file : Code.SourceFile}
    (hfile : Code.SourceFile.ofCompiled compiled source.path codeSettings = .ok file) :
    Code.EmitsOrder compiled codeSettings source file := by
  obtain ⟨items, hitems, rfl⟩ :=
    (Code.ofCompiled_eq_ok_iff (h.file?_eq_some_iff.mpr ⟨hsource, rfl⟩)).mp hfile
  obtain ⟨table, htable, hresult⟩ := h.mem_files_iff.mp hsource
  have hslice := h.isSlice hbuilt htable hresult
  refine ⟨rfl, ?_, Code.SourceFile.text_append_newline _⟩
  rw [Code.SourceFile.definitions, List.forall₂_map_right_iff]
  have hall := (List.forall₂_and_left _ _).mpr
    ⟨fun _ hname => hname, mapM_eq_ok_iff.mp hitems⟩
  refine hall.imp fun name i hboth => ?_
  obtain ⟨hname, hi⟩ := hboth
  have hpath : name.path = source.scopePath :=
    ((hslice.mem_order_iff name).mp hname).1.trans hslice.scopePath.symm
  obtain ⟨entry, hentry, hmade⟩ := Code.exists_entry_of_namedItem hi
  have hmodules : (Code.SourceFile.ofItems source codeSettings items).modules =
      name.path.map Code.moduleIdent := by
    rw [hpath]
    rfl
  refine ⟨hmodules, ?_, entry, hentry, by rw [hpath]; exact hmade⟩
  rw [(Code.shows_of_item hmade).ident, h.name_of_get? hentry]

theorem emitsOnce {codeSettings : CodeSettings} (e : Code.Emission compiled codeSettings) :
    e.EmitsOnce := by
  have hall := (List.forall₂_and_left _ _).mpr
    ⟨fun _ hsource => hsource, mapM_eq_ok_iff.mp e.emitted⟩
  have hfiles := hall.imp fun source file hboth => h.emitsOrder hbuilt hboth.1 hboth.2
  exact ⟨hfiles, _, h.perm_flatMap_order hbuilt,
    List.rel_flatMap hfiles fun _ _ hemits => hemits.made⟩

end Compiles

/-- **Partition.** A compiled session of registered texts has its order cut into the orders of its
files: each lists what its file declares, in the file's namespace, and each name has one file. Where
code is generated, every type of the session is defined once, by its file, behind the types of the
same file that it uses, and the text of the file is the texts of its types in that order, with what
opens and closes the file around them. -/
theorem compile_partitions_order {texts : List (String × String)}
    (hregister : registerTexts {} texts = .ok session)
    (hcompile : session.compile settings = .ok compiled) :
    compiled.IsPartitioned session ∧ ∀ codeSettings outputs,
      Code.generate compiled codeSettings = .ok outputs →
        ∃ e : Code.Emission compiled codeSettings, outputs = e.texts ∧ e.EmitsOnce := by
  have hbuilt := built_of_registerTexts hregister
  obtain ⟨declarations, h⟩ := compiles_of_compile hbuilt hcompile
  refine ⟨h.isPartitioned hbuilt, fun codeSettings outputs hgenerate => ?_⟩
  obtain ⟨e, houtputs⟩ := Code.exists_emission_of_generate hgenerate
  exact ⟨e, houtputs, h.emitsOnce hbuilt e⟩

/-- Two files in one namespace that use each other's types, and a third outside. -/
def canalTexts : List (String × String) :=
  [("lock", "namespace water; table Lock { gate: Gate; level: Level; next: Pump; }
      struct Gate { level: Level; }"),
   ("base", "enum Unit: ubyte { Metre }"),
   ("level", "namespace water; table Pump { gates: [Gate]; unit: Unit; }
      enum Level: ubyte { Low }")]

def canalSession : Session :=
  ((registerTexts {} canalTexts).toOption).getD {}

theorem canal_partitioned :
    registerTexts {} canalTexts = .ok canalSession ∧ ∃ compiled outputs,
      canalSession.compile {} = .ok compiled ∧ Code.generate compiled {} = .ok outputs ∧
      compiled.files.map (·.order) = [[⟨["water"], "Gate"⟩, ⟨["water"], "Lock"⟩],
        [⟨[], "Unit"⟩], [⟨["water"], "Level"⟩, ⟨["water"], "Pump"⟩]] ∧
      compiled.IsPartitioned canalSession ∧
      ∃ e : Code.Emission compiled {}, outputs = e.texts ∧ e.EmitsOnce := by
  obtain ⟨hregisters, hgenerates⟩ : (registerTexts {} canalTexts).toOption.isSome = true ∧
      ((canalSession.compile {}).toOption.bind fun compiled =>
        (Code.generate compiled {}).toOption.map fun _ => compiled.files.map (·.order)) =
          some [[⟨["water"], "Gate"⟩, ⟨["water"], "Lock"⟩], [⟨[], "Unit"⟩],
            [⟨["water"], "Level"⟩, ⟨["water"], "Pump"⟩]] := by decide +kernel
  obtain ⟨compiled, hcompiled, houtputs⟩ := Option.bind_eq_some_iff.mp hgenerates
  obtain ⟨outputs, hgenerated, horders⟩ := Option.map_eq_some_iff.mp houtputs
  have hregister : registerTexts {} canalTexts = .ok canalSession := eq_ok_getD hregisters
  have hcompile := eq_ok_of_toOption hcompiled
  have hgenerate := eq_ok_of_toOption hgenerated
  obtain ⟨hpartitioned, hemits⟩ := compile_partitions_order hregister hcompile
  exact ⟨hregister, compiled, outputs, hcompile, hgenerate, horders, hpartitioned,
    hemits {} outputs hgenerate⟩

end Session

end WireSchema
