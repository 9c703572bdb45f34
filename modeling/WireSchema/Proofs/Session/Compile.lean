/-
WireSchema.Proofs.Session.Compile — once a session is verified, only a cycle of references stops its
compilation.

Every stage behind the rules succeeds on a verified session, except the order: the declarations resolve,
each layout finds the types it holds in place (`Resolves.exists_layouts`), every ordered type has its
declaration and its layout (`Resolves.exists_assemble`), and the root types resolve again
(`Verified.exists_files`). The order fails exactly on the cycles of the reference graph.

Main statement: `Session.compile_error_iff_cycle`.
-/
import WireSchema.Compiled
import WireSchema.Proofs.Layout.Cache
import WireSchema.Proofs.Order.Cycle
import WireSchema.Proofs.Order.Depth
import WireSchema.Proofs.Session.References

namespace WireSchema

open Relation
open WireSchema.Order
open WireSchema.Outcome
open WireSchema.Resolved (Declaration)

namespace Resolved

theorem mem_inlineFields {d : Declaration} {f : Field} (h : f ∈ d.inlineFields) :
    ∃ c, (d = .struct c ∨ d = .table c) ∧ f ∈ c.fields ∧ f.isInline = true := by
  cases d with
  | enum e => cases h
  | union u => cases h
  | struct s =>
    obtain ⟨hf, hinline⟩ := List.mem_filter.mp h
    exact ⟨s, .inl rfl, hf, hinline⟩
  | table t =>
    obtain ⟨hf, hneeded⟩ := List.mem_filter.mp h
    exact ⟨t, .inr rfl, hf, (Bool.and_eq_true_iff.mp hneeded).2⟩

/-- The type of a resolved field is what its written type stands for. -/
theorem exists_resolve?_of_mem_fields {scope : Scope} {name : String} {c : Compound} {f : Field}
    (h : declaration scope name = .ok (.struct c) ∨ declaration scope name = .ok (.table c))
    (hf : f ∈ c.fields) : ∃ written declared,
      scope.resolve? written = some (f.type.name, declared) ∧
        f.type.kind = .ofDeclared declared := by
  have hfields : ∃ fields : List Symbol.Field, fields.mapM (field scope) = .ok c.fields := by
    rcases h with h | h
    · rcases declaration_cases h with ⟨_, _, heq⟩ | ⟨_, _, _, _, heq⟩ |
        ⟨s, _, _, hfields, heq⟩ | ⟨_, _, _, _, heq⟩ <;> cases heq
      exact ⟨s.fields, hfields⟩
    · rcases declaration_cases h with ⟨_, _, heq⟩ | ⟨_, _, _, _, heq⟩ |
        ⟨_, _, _, _, heq⟩ | ⟨t, _, _, hfields, heq⟩ <;> cases heq
      exact ⟨t.fields, hfields⟩
  obtain ⟨fields, hfields⟩ := hfields
  obtain ⟨written, _, hwritten⟩ := (mem_iff_of_mapM_eq_ok hfields).mp hf
  obtain ⟨target, declared, hresolve, rfl⟩ := field_eq_ok_iff.mp hwritten
  exact ⟨written.typeName, declared, hresolve, rfl⟩

end Resolved

/-- Types are assembled along an order exactly when it repeats nothing and no name of it is missing.
A name that comes twice is lost at its second place, since the first took it away. -/
theorem Compiled.exists_assemble_iff {types : OrderedMap TypeName TypeEntry}
    {declarations : OrderedMap TypeName Declaration} {all : OrderedMap TypeName Layout}
    {order : List TypeName} : (∃ result, assemble types declarations all order = .ok result) ↔
      order.Nodup ∧ ∀ name ∈ order, name ∈ declarations.keys ∧ name ∈ all.keys := by
  induction order generalizing types declarations all with
  | nil => simp [assemble]
  | cons name rest ih =>
    rw [assemble, List.nodup_cons, List.forall_mem_cons]
    cases hd : declarations.get? name with
    | none => simp [OrderedMap.get?_eq_none_iff.mp hd]
    | some declaration =>
      cases hl : all.get? name with
      | none => simp [OrderedMap.get?_eq_none_iff.mp hl]
      | some layout =>
        have hdeclared := OrderedMap.mem_keys_iff.mpr ⟨declaration, hd⟩
        have hlaid := OrderedMap.mem_keys_iff.mpr ⟨layout, hl⟩
        simp only [ih, OrderedMap.mem_keys_erase, hdeclared, hlaid, true_and]
        constructor
        · rintro ⟨hnodup, hrest⟩
          exact ⟨⟨fun hmem => (hrest name hmem).1.1 rfl, hnodup⟩,
            fun other hother => ⟨(hrest other hother).1.2, (hrest other hother).2.2⟩⟩
        · rintro ⟨⟨hfresh, hnodup⟩, hrest⟩
          have hne : ∀ other ∈ rest, other ≠ name := fun other hother heq => hfresh (heq ▸ hother)
          exact ⟨hnodup, fun other hother => ⟨⟨hne other hother, (hrest other hother).1⟩,
            hne other hother, (hrest other hother).2⟩⟩

namespace Session

variable {session : Session} {declarations : OrderedMap TypeName Declaration}

/-! ## Stages behind the order -/

namespace Resolves

variable (h : session.Resolves declarations)

include h

theorem own_names : ∀ entry ∈ declarations.entries, entry.2.name = entry.1 :=
  fun _ hentry =>
    Resolved.declarations_name h.declarations_eq (OrderedMap.get?_eq_some_iff.mpr hentry)

theorem dependsOn_of_mem_references {name target : TypeName} {d : Declaration}
    (hd : declarations.get? name = some d) (htarget : target ∈ d.references) :
    DependsOn declarations name target := by
  have hdep := Resolved.mem_dependencies_iff.mpr htarget
  obtain ⟨type, htype, _⟩ := h.get?_of_mem_dependencies hd hdep
  exact ⟨d, hd, hdep, OrderedMap.mem_keys_iff.mpr ⟨type, htype⟩⟩

/-- The type of a field is a primitive, an enum or a dependency. -/
theorem field_cases {name : TypeName} {d : Declaration} (hd : declarations.get? name = some d)
    {c : Resolved.Compound} (hc : d = .struct c ∨ d = .table c) {f : Resolved.Field}
    (hf : f ∈ c.fields) : (∃ p, f.type.kind = .primitive p) ∨
      f.type.name ∈ enumKeys declarations ∨ DependsOn declarations name f.type.name := by
  obtain ⟨file, hfile, own, _, _, _, hdeclaration⟩ := h.get?_iff.mp hd
  by_cases hdependency : f.type.isDependency = true
  · have hreference : f.type.name ∈ d.references := by
      rcases hc with rfl | rfl <;>
        exact List.mem_map.mpr ⟨f, List.mem_filter.mpr ⟨hf, hdependency⟩, rfl⟩
    exact .inr (.inr (h.dependsOn_of_mem_references hd hreference))
  -- enums are no dependencies: the declaration behind the written type has to be found
  · obtain ⟨written, declared, hresolve, hkind⟩ := Resolved.exists_resolve?_of_mem_fields
      (hc.imp (fun heq => heq ▸ hdeclaration) fun heq => heq ▸ hdeclaration) hf
    cases declared with
    | primitive p => exact .inl ⟨p, hkind⟩
    | enum e =>
      obtain ⟨target, htarget, hsame⟩ :=
        h.get?_of_declares (declares_of_resolve? hfile hresolve (by simp [Symbol.Declared.kind]))
      exact .inr (.inl (mem_enumKeys_iff.mpr
        ⟨target, htarget, by rw [Declaration.isEnum, hsame]; rfl⟩))
    | union u => exact absurd (by rw [Resolved.TypeRef.isDependency, hkind]; rfl) hdependency
    | struct s => exact absurd (by rw [Resolved.TypeRef.isDependency, hkind]; rfl) hdependency
    | table t => exact absurd (by rw [Resolved.TypeRef.isDependency, hkind]; rfl) hdependency

/-- In an established order, the type of a field stands in front of what has the field. -/
theorem mem_before_of_field {before after : List TypeName} {name : TypeName}
    (horder : establish declarations = .ok (before ++ name :: after)) {d : Declaration}
    (hd : declarations.get? name = some d) {c : Resolved.Compound}
    (hc : d = .struct c ∨ d = .table c) {f : Resolved.Field} (hf : f ∈ c.fields)
    (hkind : ∀ p, f.type.kind ≠ .primitive p) : f.type.name ∈ before := by
  rcases h.field_cases hd hc hf with ⟨p, hp⟩ | henum | hdep
  · exact absurd hp (hkind p)
  -- an enum may be as deep as what holds it, so here the depths say nothing
  · refine mem_before_of_enum h.own_names h.enumFree horder henum fun hself => ?_
    obtain ⟨e, he, hisEnum⟩ := mem_enumKeys_iff.mp hself
    obtain rfl := Option.some.inj (hd.symm.trans he)
    rcases hc with rfl | rfl <;> cases hisEnum
  · exact mem_before_of_dependsOn h.own_names h.enumFree horder hdep

theorem perm_order {order : List TypeName} (horder : establish declarations = .ok order) :
    order.Perm declarations.keys :=
  perm_keys_of_establish h.own_names horder

theorem mem_order_iff {order : List TypeName} (horder : establish declarations = .ok order)
    {name : TypeName} : name ∈ order ↔ name ∈ declarations.keys :=
  (h.perm_order horder).mem_iff

/-- Along the order every layout finds the layouts it needs. -/
theorem exists_layouts {order : List TypeName} (horder : establish declarations = .ok order)
    (discriminant : Primitive) : ∃ all, layouts declarations order discriminant = .ok all ∧
      ∀ name ∈ order, name ∈ all.keys := by
  have hbefore : ∀ before name after, order = before ++ name :: after →
      ∃ d, declarations.get? name = some d ∧ d.name = name ∧ ∀ f ∈ d.inlineFields,
        f.type.name ∈ (LayoutCache.mk discriminant {}).layouts.keys ∨ f.type.name ∈ before := by
    rintro before name after rfl
    have hkey := (h.mem_order_iff horder).mp (List.mem_append_right _ List.mem_cons_self)
    obtain ⟨d, hd⟩ := OrderedMap.mem_keys_iff.mp hkey
    refine ⟨d, hd, h.own_names _ (OrderedMap.get?_eq_some_iff.mp hd), fun f hf => .inr ?_⟩
    obtain ⟨c, hc, hmem, hinline⟩ := Resolved.mem_inlineFields hf
    refine h.mem_before_of_field horder hd hc hmem fun p hp => ?_
    simp [Resolved.Field.isInline, hp] at hinline
  obtain ⟨last, hlast, hkeys⟩ := LayoutCache.exists_run_resolveAll hbefore
  exact ⟨last.layouts, by rw [layouts, hlast], fun name hname => (hkeys name).mpr (.inr hname)⟩

theorem nodup_order {order : List TypeName} (horder : establish declarations = .ok order) :
    order.Nodup :=
  (h.perm_order horder).nodup_iff.mpr declarations.nodup

/-- No ordered type is lost. -/
theorem exists_assemble {order : List TypeName} (horder : establish declarations = .ok order)
    {all : OrderedMap TypeName Layout} (hall : ∀ name ∈ order, name ∈ all.keys) :
    ∃ types, Compiled.assemble {} declarations all order = .ok types :=
  Compiled.exists_assemble_iff.mpr ⟨h.nodup_order horder, fun name hname =>
    ⟨(h.mem_order_iff horder).mp hname, hall name hname⟩⟩

end Resolves

/-- The root types of a verified session resolve in every file. -/
theorem Verified.exists_files (h : session.Verified) (order : List TypeName) :
    ∃ files, (session.files.entries.mapM fun entry =>
      Compiled.fileOf session order entry.1 entry.2) = .ok files := by
  rw [exists_mapM_eq_ok_iff]
  rintro ⟨path, file⟩ hentry
  have hroots : ∃ roots, file.rootTypes.mapM (Scope.qualified ⟨session, file⟩) = .ok roots := by
    rw [exists_mapM_eq_ok_iff]
    intro root hroot
    obtain ⟨target, t, hresolve⟩ :=
      h.roots file (List.mem_map.mpr ⟨_, hentry, rfl⟩) root hroot
    exact ⟨target, Resolved.qualified_eq_ok_iff.mpr ⟨.table t, hresolve⟩⟩
  obtain ⟨roots, hroots⟩ := hroots
  exact ⟨_, bind_eq_ok_iff.mpr ⟨roots, hroots, rfl⟩⟩

/-! ## Compilation -/

namespace Resolves

variable {settings : CompilerSettings} {discriminant : Primitive}
  (h : session.Resolves declarations) (hsettings : settings.discriminant = .ok discriminant)
  (hrules : Rules.session session settings = .ok ())

include h hsettings hrules

/-- Behind an order every stage succeeds. -/
theorem exists_stages {order : List TypeName} (horder : establish declarations = .ok order) :
    ∃ all types files, layouts declarations order discriminant = .ok all ∧
      Compiled.assemble {} declarations all order = .ok types ∧
      (session.files.entries.mapM fun entry =>
        Compiled.fileOf session order entry.1 entry.2) = .ok files ∧
      session.compile settings = .ok ⟨discriminant, order, types, files⟩ := by
  obtain ⟨all, hall, hkeys⟩ := h.exists_layouts horder discriminant
  obtain ⟨types, htypes⟩ := h.exists_assemble horder hkeys
  obtain ⟨files, hfiles⟩ := h.verified.exists_files order
  refine ⟨all, types, files, hall, htypes, hfiles, ?_⟩
  simp only [compile, bind_eq_ok_iff]
  exact ⟨_, hsettings, (), hrules, _, h.declarations_eq, _, horder, _, hall, _, htypes, _, hfiles,
    rfl⟩

/-- A compilation fails as the order does. -/
theorem compile_eq_error_iff {error : Error} :
    session.compile settings = .error error ↔ establish declarations = .error error := by
  cases horder : establish declarations with
  | ok order =>
    obtain ⟨_, _, _, _, _, _, hcompile⟩ := h.exists_stages hsettings hrules horder
    simp [hcompile]
  | error e =>
    simp [compile, hsettings, hrules, h.declarations_eq, horder, bind, Except.bind]

end Resolves

/-- Once the rules are kept, compiling a session of registered texts fails exactly when its reference
graph has a cycle, always as a structural error. The declarations resolve, and behind an order every
stage succeeds. -/
theorem compile_error_iff_cycle {texts : List (String × String)} {settings : CompilerSettings}
    {discriminant : Primitive} (hregister : registerTexts {} texts = .ok session)
    (hsettings : settings.discriminant = .ok discriminant)
    (hrules : Rules.session session settings = .ok ()) :
    ((∃ error, session.compile settings = .error error) ↔
      ∃ name, TransGen session.Refers name name) ∧
    (∀ error, session.compile settings = .error error → error.kind = .structural) ∧
    ∃ declarations, Resolved.declarations session = .ok declarations ∧
      ∀ order, establish declarations = .ok order →
        ∃ all types files, layouts declarations order discriminant = .ok all ∧
          Compiled.assemble {} declarations all order = .ok types ∧
          (session.files.entries.mapM fun entry =>
            Compiled.fileOf session order entry.1 entry.2) = .ok files ∧
          session.compile settings = .ok ⟨discriminant, order, types, files⟩ := by
  have hlisted := listed_of_registerTexts hregister
  have hverified := Rules.verified_of_rules hrules
  obtain ⟨declarations, hdeclarations⟩ := exists_declarations_of_verified hlisted hverified
  have h : session.Resolves declarations := ⟨hlisted, hverified, hdeclarations⟩
  have hgraph : DependsOn declarations = session.Refers := by
    funext source target
    exact propext h.dependsOn_iff_refers
  refine ⟨?_, ?_, declarations, hdeclarations, fun order => h.exists_stages hsettings hrules⟩
  · rw [← hgraph, ← rounds_error_iff h.enumFree]
    simp only [h.compile_eq_error_iff hsettings hrules, establish_eq_error_iff]
    constructor
    · rintro ⟨_, left, hleft, _⟩
      exact ⟨left, hleft⟩
    · rintro ⟨left, hleft⟩
      exact ⟨_, left, hleft, rfl⟩
  · intro error herror
    obtain ⟨left, _, rfl⟩ :=
      establish_eq_error_iff.mp ((h.compile_eq_error_iff hsettings hrules).mp herror)
    rfl

/-- Two files that refer to each other through a union and a deprecated array. -/
def loopTexts : List (String × String) :=
  [("a", "namespace n; table A { u: U; } union U { B }"),
   ("b", "namespace n; table B { old: [A] (deprecated); }")]

def loopSession : Session :=
  ((registerTexts {} loopTexts).toOption).getD {}

theorem compile_loopSession :
    registerTexts {} loopTexts = .ok loopSession ∧ Rules.session loopSession {} = .ok () ∧
    (∃ name, TransGen loopSession.Refers name name) ∧
    ∃ error, loopSession.compile {} = .error error ∧ error.kind = .structural := by
  have hregister : registerTexts {} loopTexts = .ok loopSession :=
    eq_ok_of_toOption (by decide +kernel)
  have hrules : Rules.session loopSession {} = .ok () := eq_ok_of_toOption (by decide +kernel)
  obtain ⟨hcycle, hkind, _⟩ := compile_error_iff_cycle hregister
    (rfl : ({} : CompilerSettings).discriminant = .ok .ubyte) hrules
  have hfails : (loopSession.compile {}).toOption = none := by decide +kernel
  cases hcompile : loopSession.compile {} with
  | ok compiled =>
    rw [hcompile] at hfails
    cases hfails
  | error error => exact ⟨hregister, hrules, hcycle.mp ⟨error, hcompile⟩, error, rfl,
      hkind error hcompile⟩

end Session

end WireSchema
