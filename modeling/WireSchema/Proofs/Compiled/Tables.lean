/-
WireSchema.Proofs.Compiled.Tables — how the tables of a compiled session are laid out.

The extent of a slot may be that of a struct, which may be forced to any alignment that the rules
allow and may hold further structs. The grammar gives every struct a field and the rules give it a
power of two, so all extents are proper (`Compiles.isProper`) and the slots of tables do not meet, as
long as the table fits a word. The indices under which a table has offsets are right in any case
(`Produces.isIndexed`).

Main statement: `Session.compile_table_isLaidOut`.
-/
import WireSchema.Proofs.Compiled.Closed
import WireSchema.Proofs.Compiled.Exact
import WireSchema.Proofs.Session.Grammatical

namespace WireSchema

open WireSchema.Outcome
open WireSchema.Resolved (Declaration)

namespace Session

variable {session : Session} {settings : CompilerSettings} {compiled : Compiled}
  {declarations : OrderedMap TypeName Declaration}

namespace Produces

variable (h : session.Produces settings declarations compiled)

include h

/-- A declaration stands for one that a file holds. -/
theorem exists_source {name : TypeName} {d : Declaration} (hd : declarations.get? name = some d) :
    ∃ file ∈ session.files.values, ∃ own declared, file.Holds own declared ∧
      Scope.Mirrors ⟨session, file⟩ own declared d := by
  obtain ⟨hunique, _⟩ := Rules.session_eq_ok_iff.mp h.rules
  obtain ⟨item, hitem, _, hdeclaration⟩ :=
    (Resolved.get?_declarations_iff h.declarations_eq hunique).mp hd
  obtain ⟨file, hfile, own, _, rfl⟩ := Resolved.mem_declared.mp hitem
  obtain ⟨declared, hfind⟩ := Resolved.exists_find?_of_declaration hdeclaration
  exact ⟨file, hfile, own, declared, SymbolTable.holds_of_find? hfind,
    Resolved.mirrors_of_declaration hdeclaration hfind⟩

/-- A table has offsets for the fields in use. -/
theorem isIndexed {name : TypeName} {entry : Compiled.TypeEntry} {t : Resolved.Compound}
    (hentry : compiled.get? name = some entry) (ht : entry.declaration = .table t) :
    t.IsIndexed entry.layout := by
  obtain ⟨exact, hexact, hlayout⟩ := h.exists_exactLayout hentry
  rw [ht] at hexact
  rw [hlayout]
  cases hexact with
  | table inner type htype hinner htable => exact htable.isIndexed.wrap

end Produces

namespace Compiles

variable (h : session.Compiles settings declarations compiled)

include h

theorem struct_fields_ne_nil (hgrammatical : ∀ file ∈ session.files.values, file.Grammatical)
    {name : TypeName} {s : Resolved.Compound} (hs : declarations.get? name = some (.struct s)) :
    s.fields ≠ [] := by
  obtain ⟨file, hfile, own, declared, hholds, hmirrors⟩ := h.produces.exists_source hs
  cases hmirrors with
  | struct hfields =>
    intro hnone
    obtain rfl := hnone
    rw [List.forall₂_nil_right_iff] at hfields
    exact (hgrammatical file hfile).structs own _ hholds hfields

theorem isProper (hgrammatical : ∀ file ∈ session.files.values, file.Grammatical)
    {name : TypeName} {d : Declaration} (hd : compiled.declaration? name = some d)
    {exact : Layout} (hexact : compiled.ExactLayout d exact) : exact.extent.IsProper := by
  refine hexact.isProper (fun name s hs => ?_) hd
  rw [h.produces.declaration?_eq] at hs
  exact ⟨h.struct_fields_ne_nil hgrammatical hs, fun bytes hbytes =>
    (Resolved.forceAlign_of_rules h.produces.declarations_eq h.produces.rules hs hbytes).1⟩

/-- The slots of a table that fits a word are those of its fields, and they do not meet. -/
theorem isLaidOut (hgrammatical : ∀ file ∈ session.files.values, file.Grammatical)
    {name : TypeName} {t : Resolved.Compound} {layout : Layout}
    (hentry : compiled.get? name = some ⟨.table t, layout⟩)
    (hfits : compiled.FitsWord (.table t)) :
    t.IsLaidOut compiled.unionDiscriminant compiled.layoutD layout := by
  refine (h.produces.isTableLayout hentry hfits).isLaidOut
    (Resolved.isProper_of_mem_liveSlots fun f hf hlive hinline => ?_)
  obtain ⟨type, htype, _, hinner⟩ := h.produces.exists_inner_of_fitsWord hfits
    (Resolved.mem_inlineFields_table hf hlive hinline)
  exact h.isProper hgrammatical htype hinner

theorem exists_layout?_of_isInline {key : TypeName} {entry : Compiled.TypeEntry}
    (hbuilt : ∀ file ∈ session.files.values, file.Built)
    (hentry : compiled.get? key = some entry) {f : Resolved.Field}
    (hf : f ∈ entry.declaration.fields) (hinline : f.isInline = true) :
    ∃ layout, compiled.layout? f.type.name = some layout := by
  rcases (h.isClosedOver hbuilt).fieldTypes key entry hentry f hf with
    ⟨p, hp⟩ | ⟨target, htarget, _⟩
  · simp [Resolved.Field.isInline, hp] at hinline
  · exact ⟨target.layout, Option.map_eq_some_iff.mpr ⟨target, htarget, rfl⟩⟩

end Compiles

/-- **Tables.** In a compiled session of registered texts, a table has one place for the value of
every field in use and one more for the tag of every union among them. Unless its size overflows, all
of them are aligned, lie behind the offset to the vtable and inside the table, and do not meet; they
stand in the order of the fields, each tag right in front of its value. The table is aligned to a power
of two that all of them divide, and ends at the first aligned place behind the last. -/
theorem compile_table_isLaidOut {texts : List (String × String)}
    (hregister : registerTexts {} texts = .ok session)
    (hcompile : session.compile settings = .ok compiled) {key : TypeName}
    {entry : Compiled.TypeEntry} {t : Resolved.Compound}
    (hentry : compiled.get? key = some entry) (htable : entry.declaration = .table t) :
    t.IsIndexed entry.layout ∧
      (compiled.FitsWord (.table t) →
        t.IsLaidOut compiled.unionDiscriminant compiled.layoutD entry.layout) ∧
      ∀ f ∈ t.fields, f.isInline = true →
        ∃ layout, compiled.layout? f.type.name = some layout := by
  have hbuilt := built_of_registerTexts hregister
  have hgrammatical := grammatical_of_registerTexts hregister
  obtain ⟨declarations, h⟩ := compiles_of_compile hbuilt hcompile
  obtain ⟨d, layout⟩ := entry
  obtain rfl : d = .table t := htable
  refine ⟨h.produces.isIndexed hentry rfl, h.isLaidOut hgrammatical hentry, fun f hf hinline => ?_⟩
  exact h.exists_layout?_of_isInline hbuilt hentry hf hinline

/-- A deprecated field, a union and an array of it, and a struct that is forced to an alignment. -/
def raftTexts : List (String × String) :=
  [("raft", "struct Buoy (force_align: 16) { x: ubyte; y: short; } table Crate {}
      union Load { Crate }
      table Raft { old: int (deprecated); load: Load; buoy: Buoy; loads: [Load]; flag: bool; }")]

def raftSession : Session :=
  ((registerTexts {} raftTexts).toOption).getD {}

theorem raft_isLaidOut :
    registerTexts {} raftTexts = .ok raftSession ∧ ∃ compiled t,
      raftSession.compile {} = .ok compiled ∧
      compiled.get? ⟨[], "Raft"⟩ = some ⟨.table t,
        ⟨16, 48, some [(1, 8), (2, 16), (3, 36), (4, 40)], [(1, 4), (3, 32)]⟩⟩ ∧
      compiled.FitsWord (.table t) ∧
      t.IsLaidOut compiled.unionDiscriminant compiled.layoutD
        ⟨16, 48, some [(1, 8), (2, 16), (3, 36), (4, 40)], [(1, 4), (3, 32)]⟩ := by
  obtain ⟨hregisters, hcompiles⟩ : (registerTexts {} raftTexts).toOption.isSome = true ∧
      ((raftSession.compile {}).toOption.bind fun compiled =>
        (compiled.get? ⟨[], "Raft"⟩).map fun entry =>
          (entry.declaration.kind, entry.layout, decide compiled.HasRoom)) =
          some (Kind.table,
            ⟨16, 48, some [(1, 8), (2, 16), (3, 36), (4, 40)], [(1, 4), (3, 32)]⟩, true) := by
    decide +kernel
  obtain ⟨compiled, hcompiled, hfound⟩ := Option.bind_eq_some_iff.mp hcompiles
  obtain ⟨⟨declaration, layout⟩, hentry, heq⟩ := Option.map_eq_some_iff.mp hfound
  simp only [Prod.mk.injEq, decide_eq_true_eq] at heq
  obtain ⟨hkind, rfl, hroom⟩ := heq
  have hregister : registerTexts {} raftTexts = .ok raftSession := eq_ok_getD hregisters
  have hcompile := eq_ok_of_toOption hcompiled
  have hfits := fitsWord_of_compile hcompile hroom hentry
  cases declaration with
  | table t =>
    exact ⟨hregister, compiled, t, hcompile, hentry, hfits,
      (compile_table_isLaidOut hregister hcompile hentry rfl).2.1 hfits⟩
  | enum e => cases hkind
  | union u => cases hkind
  | struct s => cases hkind

end Session

end WireSchema
