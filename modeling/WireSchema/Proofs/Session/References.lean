/-
WireSchema.Proofs.Session.References — the reference graph of a session and the dependencies of its
resolved declarations.

`Session.Refers` is read off the written schema: a union refers to what its members stand for, a struct
or a table to what the types of its fields stand for, as far as those are unions, structs or tables.
In a verified session every declaration resolves (`exists_declarations_of_verified`), and the
dependencies between the resolved declarations are exactly these references (`dependsOn_iff_refers`).
-/
import WireSchema.Proofs.Layout.Reference
import WireSchema.Proofs.Order.Rounds
import WireSchema.Proofs.Session.Verified

namespace WireSchema

open WireSchema.Order
open WireSchema.Outcome
open WireSchema.Resolved (Declaration)

/-! ## References -/

/-- The declaration with a local name refers to a type. -/
inductive Scope.Refers (scope : Scope) (name : String) (target : TypeName) : Prop
  | member {u : Symbol.Union} {written : String} {declared : Symbol.Declared}
      (hunion : scope.file.find? name = some (.union u)) (hmember : written ∈ u.members)
      (hresolve : scope.resolve? written = some (target, declared))
  | field {c : Symbol.Compound} {f : Symbol.Field} {declared : Symbol.Declared}
      (hcompound : scope.file.find? name = some (.struct c) ∨
        scope.file.find? name = some (.table c))
      (hfield : f ∈ c.fields) (hresolve : scope.resolve? f.typeName = some (target, declared))
      (hkind : declared.kind ∈ [Kind.union, .struct, .table])

/-- An edge of the reference graph. -/
def Session.Refers (session : Session) (source target : TypeName) : Prop :=
  ∃ file ∈ session.files.values, ∃ name,
    source = ⟨file.scopePath, name⟩ ∧ Scope.Refers ⟨session, file⟩ name target

namespace Scope

variable {scope : Scope} {name : String} {target : TypeName}

theorem not_refers_of_enum {e : Symbol.Enum} (h : scope.file.find? name = some (.enum e)) :
    ¬ scope.Refers name target := by
  rintro (⟨hfind, _, _⟩ | ⟨hfind | hfind, _, _, _⟩) <;> rw [h] at hfind <;> cases hfind

theorem refers_union_iff {u : Symbol.Union} (h : scope.file.find? name = some (.union u)) :
    scope.Refers name target ↔
      ∃ written ∈ u.members, ∃ declared, scope.resolve? written = some (target, declared) := by
  constructor
  · rintro (⟨hfind, hmember, hresolve⟩ | ⟨hfind | hfind, _, _, _⟩) <;> rw [h] at hfind <;>
      cases hfind
    exact ⟨_, hmember, _, hresolve⟩
  · rintro ⟨written, hmember, declared, hresolve⟩
    exact .member h hmember hresolve

theorem refers_compound_iff {c : Symbol.Compound}
    (h : scope.file.find? name = some (.struct c) ∨ scope.file.find? name = some (.table c)) :
    scope.Refers name target ↔ ∃ f ∈ c.fields, ∃ declared,
      scope.resolve? f.typeName = some (target, declared) ∧
        declared.kind ∈ [Kind.union, .struct, .table] := by
  constructor
  · rintro (⟨hfind, _, _⟩ | ⟨hfind, hf, hresolve, hkind⟩)
    · rcases h with h | h <;> rw [h] at hfind <;> cases hfind
    · rcases h with h | h <;> rw [h] at hfind <;> rcases hfind with hfind | hfind <;>
        cases hfind <;> exact ⟨_, hf, _, hresolve, hkind⟩
  · rintro ⟨f, hf, declared, hresolve, hkind⟩
    exact .field h hf hresolve hkind

end Scope

namespace Resolved

variable {scope : Scope} {name : String} {d : Declaration}

theorem qualified_eq_ok_iff {written : String} {target : TypeName} :
    scope.qualified written = .ok target ↔
      ∃ declared, scope.resolve? written = some (target, declared) := by
  unfold Scope.qualified
  cases scope.resolve? written with
  | none => simp
  | some found => obtain ⟨qualified, declared⟩ := found; simp

theorem field_eq_ok_iff {f : Symbol.Field} {resolved : Field} :
    field scope f = .ok resolved ↔ ∃ target declared,
      scope.resolve? f.typeName = some (target, declared) ∧
        resolved = ⟨f.name, ⟨target, .ofDeclared declared⟩, f.isArray, f.default, f.metadata⟩ := by
  unfold field
  cases scope.resolve? f.typeName with
  | none => simp
  | some found => obtain ⟨qualified, declared⟩ := found; simp [eq_comm]

theorem isDependency_iff {target : TypeName} {declared : Symbol.Declared} :
    (TypeRef.mk target (.ofDeclared declared)).isDependency = true ↔
      declared.kind ∈ [Kind.union, .struct, .table] := by
  cases declared <;> simp [TypeRef.isDependency, TypeKind.ofDeclared, Symbol.Declared.kind]

theorem mem_foldl_distinct_iff {target : TypeName} (references seen : List TypeName) :
    target ∈ references.foldl
      (fun seen name => if seen.contains name then seen else seen ++ [name]) seen ↔
        target ∈ seen ∨ target ∈ references := by
  induction references generalizing seen with
  | nil => simp
  | cons name rest ih =>
    rw [List.foldl_cons, ih, List.mem_cons]
    split
    · rename_i hseen
      have hname : target = name → target ∈ seen := fun heq => heq ▸ by simpa using hseen
      rw [← or_assoc, or_iff_left_of_imp hname]
    · rw [List.mem_append, List.mem_singleton, or_assoc]

/-- Dependencies are the references without repeats. -/
theorem mem_dependencies_iff {target : TypeName} :
    target ∈ d.dependencies ↔ target ∈ d.references := by
  rw [Declaration.dependencies, mem_foldl_distinct_iff, or_iff_right (List.not_mem_nil)]

/-! ## Resolved declarations -/

theorem mem_references_fields_iff {fields : List Symbol.Field} {resolved : List Field}
    (h : fields.mapM (field scope) = .ok resolved) {target : TypeName} :
    target ∈ (resolved.filter fun f => f.type.isDependency).map (fun f => f.type.name) ↔
      ∃ f ∈ fields, ∃ declared, scope.resolve? f.typeName = some (target, declared) ∧
        declared.kind ∈ [Kind.union, .struct, .table] := by
  simp only [List.mem_map, List.mem_filter, mem_iff_of_mapM_eq_ok h, field_eq_ok_iff]
  constructor
  · rintro ⟨_, ⟨⟨f, hf, target, declared, hresolve, rfl⟩, hdependency⟩, rfl⟩
    exact ⟨f, hf, declared, hresolve, isDependency_iff.mp hdependency⟩
  · rintro ⟨f, hf, declared, hresolve, hkind⟩
    exact ⟨_, ⟨⟨f, hf, target, declared, hresolve, rfl⟩, isDependency_iff.mpr hkind⟩, rfl⟩

theorem exists_find?_of_declaration (h : declaration scope name = .ok d) :
    ∃ declared, scope.file.find? name = some declared := by
  cases hfind : scope.file.find? name with
  | none => simp [declaration, hfind] at h
  | some declared => exact ⟨declared, rfl⟩

/-- What a resolved declaration is, by the kind of what it resolves. -/
theorem declaration_cases (h : declaration scope name = .ok d) :
    (∃ e, scope.file.find? name = some (.enum e) ∧
      d = .enum ⟨scope.own name, e.underlying, e.values, e.metadata⟩) ∨
    (∃ u members, scope.file.find? name = some (.union u) ∧
      u.members.mapM scope.qualified = .ok members ∧
      d = .union ⟨scope.own name, members, u.metadata⟩) ∨
    (∃ s fields, scope.file.find? name = some (.struct s) ∧
      s.fields.mapM (field scope) = .ok fields ∧
      d = .struct ⟨scope.own name, fields, s.metadata, s.forceAlign?⟩) ∨
    ∃ t fields, scope.file.find? name = some (.table t) ∧
      t.fields.mapM (field scope) = .ok fields ∧
      d = .table ⟨scope.own name, fields, t.metadata, none⟩ := by
  unfold declaration at h
  split at h
  · rename_i e hfind
    exact .inl ⟨e, hfind, (Except.ok.inj h).symm⟩
  · rename_i u hfind
    obtain ⟨members, hmembers, hd⟩ := bind_eq_ok_iff.mp h
    exact .inr (.inl ⟨u, members, hfind, hmembers, (Except.ok.inj hd).symm⟩)
  · rename_i s hfind
    obtain ⟨fields, hfields, hd⟩ := bind_eq_ok_iff.mp h
    exact .inr (.inr (.inl ⟨s, fields, hfind, hfields, (Except.ok.inj hd).symm⟩))
  · rename_i t hfind
    obtain ⟨fields, hfields, hd⟩ := bind_eq_ok_iff.mp h
    exact .inr (.inr (.inr ⟨t, fields, hfind, hfields, (Except.ok.inj hd).symm⟩))
  · cases h
  · cases h

theorem declaration_kind (h : declaration scope name = .ok d) {declared : Symbol.Declared}
    (hfind : scope.file.find? name = some declared) : d.kind = declared.kind := by
  rcases declaration_cases h with ⟨e, he, rfl⟩ | ⟨u, _, hu, _, rfl⟩ | ⟨s, _, hs, _, rfl⟩ |
    ⟨t, _, ht, _, rfl⟩
  · obtain rfl := Option.some.inj (he.symm.trans hfind)
    rfl
  · obtain rfl := Option.some.inj (hu.symm.trans hfind)
    rfl
  · obtain rfl := Option.some.inj (hs.symm.trans hfind)
    rfl
  · obtain rfl := Option.some.inj (ht.symm.trans hfind)
    rfl

/-- The references of a resolved declaration are those of the written one. -/
theorem mem_references_iff (h : declaration scope name = .ok d) {target : TypeName} :
    target ∈ d.references ↔ scope.Refers name target := by
  rcases declaration_cases h with ⟨e, he, rfl⟩ | ⟨u, _, hu, hmembers, rfl⟩ |
    ⟨s, _, hs, hfields, rfl⟩ | ⟨t, _, ht, hfields, rfl⟩
  · exact iff_of_false List.not_mem_nil (Scope.not_refers_of_enum he)
  · rw [Scope.refers_union_iff hu, Declaration.references, mem_iff_of_mapM_eq_ok hmembers]
    simp only [qualified_eq_ok_iff]
  · rw [Scope.refers_compound_iff (.inl hs), Declaration.references,
      mem_references_fields_iff hfields]
  · rw [Scope.refers_compound_iff (.inr ht), Declaration.references,
      mem_references_fields_iff hfields]

end Resolved

/-! ## Verified sessions -/

namespace Session

variable {session : Session} {declarations : OrderedMap TypeName Declaration}

theorem mem_declared_of_find? (hlisted : ∀ file ∈ session.files.values, file.Listed)
    {file : SymbolTable} (hfile : file ∈ session.files.values) {name : String}
    {declared : Symbol.Declared} (hfind : file.find? name = some declared) :
    (⟨session, file⟩, name) ∈ session.declared :=
  Resolved.mem_declared.mpr
    ⟨file, hfile, name, (hlisted file hfile name).mpr ⟨declared, hfind⟩, rfl⟩

/-- In a verified session every declaration resolves. -/
theorem Verified.exists_declaration (h : session.Verified) {file : SymbolTable}
    (hfile : file ∈ session.files.values) {name : String} {declared : Symbol.Declared}
    (hfind : file.find? name = some declared) :
    ∃ d, Resolved.declaration ⟨session, file⟩ name = .ok d := by
  have hfields : ∀ c, file.find? name = some (.struct c) ∨ file.find? name = some (.table c) →
      ∃ fields, c.fields.mapM (Resolved.field ⟨session, file⟩) = .ok fields := by
    intro c hc
    rw [exists_mapM_eq_ok_iff]
    intro f hf
    obtain ⟨target, type, hresolve⟩ := h.fields file hfile name c hc f hf
    exact ⟨_, Resolved.field_eq_ok_iff.mpr ⟨target, type, hresolve, rfl⟩⟩
  unfold Resolved.declaration
  simp only [hfind]
  cases declared with
  | primitive p => exact (SymbolTable.holds_of_find? hfind).elim
  | enum e => exact ⟨_, rfl⟩
  | union u =>
    have hmembers : ∃ members, u.members.mapM (Scope.qualified ⟨session, file⟩) = .ok members := by
      rw [exists_mapM_eq_ok_iff]
      intro written hwritten
      obtain ⟨target, t, hresolve⟩ := h.members file hfile name u hfind written hwritten
      exact ⟨target, Resolved.qualified_eq_ok_iff.mpr ⟨.table t, hresolve⟩⟩
    obtain ⟨members, hmembers⟩ := hmembers
    exact ⟨_, bind_eq_ok_iff.mpr ⟨members, hmembers, rfl⟩⟩
  | struct s =>
    obtain ⟨fields, hfields⟩ := hfields s (.inl hfind)
    exact ⟨_, bind_eq_ok_iff.mpr ⟨fields, hfields, rfl⟩⟩
  | table t =>
    obtain ⟨fields, hfields⟩ := hfields t (.inr hfind)
    exact ⟨_, bind_eq_ok_iff.mpr ⟨fields, hfields, rfl⟩⟩

theorem exists_declarations_of_verified (hlisted : ∀ file ∈ session.files.values, file.Listed)
    (h : session.Verified) : ∃ declarations, Resolved.declarations session = .ok declarations := by
  refine Resolved.exists_declarations fun item hitem => ?_
  obtain ⟨file, hfile, name, hname, rfl⟩ := Resolved.mem_declared.mp hitem
  obtain ⟨declared, hfind⟩ := (hlisted file hfile name).mp hname
  exact h.exists_declaration hfile hfind

/-- In a verified session, what is referred to is declared, and no enum. -/
theorem Verified.declares_of_refers (h : session.Verified) {file : SymbolTable}
    (hfile : file ∈ session.files.values) {name : String} {target : TypeName}
    (hrefers : Scope.Refers ⟨session, file⟩ name target) :
    ∃ declared, declared.kind ∈ [Kind.union, .struct, .table] ∧
      session.Declares target declared := by
  cases hrefers with
  | member hunion hmember hresolve =>
    obtain ⟨target', t, hresolve'⟩ := h.members file hfile name _ hunion _ hmember
    cases hresolve.symm.trans hresolve'
    exact ⟨.table t, by simp [Symbol.Declared.kind],
      declares_of_resolve? hfile hresolve (by simp [Symbol.Declared.kind])⟩
  | @field c f declared hcompound hfield hresolve hkind =>
    refine ⟨declared, hkind, declares_of_resolve? hfile hresolve fun hprimitive => ?_⟩
    rw [hprimitive] at hkind
    revert hkind
    decide

/-- A verified session whose files list what they declare, with its resolved declarations. -/
structure Resolves (session : Session) (declarations : OrderedMap TypeName Declaration) :
    Prop where
  listed : ∀ file ∈ session.files.values, file.Listed
  verified : session.Verified
  declarations_eq : Resolved.declarations session = .ok declarations

namespace Resolves

variable (h : session.Resolves declarations)

include h

/-- A name has the resolved declaration of the file that declares it. -/
theorem get?_iff {name : TypeName} {d : Declaration} :
    declarations.get? name = some d ↔ ∃ file ∈ session.files.values, ∃ own declared,
      ⟨file.scopePath, own⟩ = name ∧ file.find? own = some declared ∧
        Resolved.declaration ⟨session, file⟩ own = .ok d := by
  rw [Resolved.get?_declarations_iff h.declarations_eq h.verified.unique]
  constructor
  · rintro ⟨item, hitem, rfl, hd⟩
    obtain ⟨file, hfile, own, hown, rfl⟩ := Resolved.mem_declared.mp hitem
    obtain ⟨declared, hfind⟩ := (h.listed file hfile own).mp hown
    exact ⟨file, hfile, own, declared, rfl, hfind, hd⟩
  · rintro ⟨file, hfile, own, declared, rfl, hfind, hd⟩
    exact ⟨_, mem_declared_of_find? h.listed hfile hfind, rfl, hd⟩

/-- What the session declares is among the resolved declarations, with its kind. -/
theorem get?_of_declares {name : TypeName} {declared : Symbol.Declared}
    (hdeclares : session.Declares name declared) :
    ∃ d, declarations.get? name = some d ∧ d.kind = declared.kind := by
  obtain ⟨file, hfile, hpath, hfind⟩ := hdeclares
  obtain ⟨d, hd⟩ := h.verified.exists_declaration hfile hfind
  refine ⟨d, h.get?_iff.mpr ⟨file, hfile, name.name, declared, ?_, hfind, hd⟩,
    Resolved.declaration_kind hd hfind⟩
  rw [hpath]

/-- A dependency of a resolved declaration is declared as a union, a struct or a table. -/
theorem get?_of_mem_dependencies {name target : TypeName} {d : Declaration}
    (hd : declarations.get? name = some d) (htarget : target ∈ d.dependencies) :
    ∃ type, declarations.get? target = some type ∧ type.isEnum = false := by
  obtain ⟨file, hfile, own, _, _, _, hdeclaration⟩ := h.get?_iff.mp hd
  have hrefers :=
    (Resolved.mem_references_iff hdeclaration).mp (Resolved.mem_dependencies_iff.mp htarget)
  obtain ⟨declared, hkind, hdeclares⟩ := h.verified.declares_of_refers hfile hrefers
  obtain ⟨type, htype, hsame⟩ := h.get?_of_declares hdeclares
  refine ⟨type, htype, ?_⟩
  rw [← hsame] at hkind
  unfold Declaration.isEnum
  cases hcase : type.kind <;> simp [hcase] at hkind ⊢

theorem enumFree : EnumFree declarations := by
  intro entry hentry dep hdep d hd
  obtain ⟨type, htype, hkind⟩ :=
    h.get?_of_mem_dependencies (OrderedMap.get?_eq_some_iff.mpr hentry) hdep
  rw [Option.mem_def, htype] at hd
  exact Option.some.inj hd ▸ hkind

/-- The dependencies between the resolved declarations are the references of the session. -/
theorem dependsOn_iff_refers {source target : TypeName} :
    DependsOn declarations source target ↔ session.Refers source target := by
  constructor
  · rintro ⟨d, hd, hdep, _⟩
    obtain ⟨file, hfile, own, _, rfl, _, hdeclaration⟩ := h.get?_iff.mp hd
    exact ⟨file, hfile, own, rfl,
      (Resolved.mem_references_iff hdeclaration).mp (Resolved.mem_dependencies_iff.mp hdep)⟩
  · rintro ⟨file, hfile, own, rfl, hrefers⟩
    have hfind : ∃ declared, file.find? own = some declared := by
      cases hrefers with
      | member hunion => exact ⟨_, hunion⟩
      | field hcompound => exact hcompound.elim (fun hs => ⟨_, hs⟩) fun ht => ⟨_, ht⟩
    obtain ⟨declared, hfind⟩ := hfind
    obtain ⟨d, hdeclaration⟩ := h.verified.exists_declaration hfile hfind
    have hd := h.get?_iff.mpr ⟨file, hfile, own, declared, rfl, hfind, hdeclaration⟩
    have hdep : target ∈ d.dependencies :=
      Resolved.mem_dependencies_iff.mpr ((Resolved.mem_references_iff hdeclaration).mpr hrefers)
    -- only declared targets count as dependencies; the rules left no other
    obtain ⟨type, htype, _⟩ := h.get?_of_mem_dependencies hd hdep
    exact ⟨d, hd, hdep, OrderedMap.mem_keys_iff.mpr ⟨type, htype⟩⟩

end Resolves

end Session

end WireSchema
