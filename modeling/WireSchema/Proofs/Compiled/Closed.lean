/-
WireSchema.Proofs.Compiled.Closed — a compiled session has every declared type once, and refers to
nothing else.

`Scope.Mirrors` says that a resolved declaration is the written one with its type names resolved, item
by item. `Compiled.IsClosedOver` collects what holds of a compiled session: each declared type has one
entry that mirrors it, each entry one declaration behind it, and every field type, union member and
root type leads to an entry of the right kind.

Main statement: `Session.compile_isClosedOver`.
-/
import WireSchema.Proofs.Compiled.Stages

namespace WireSchema

open WireSchema.Outcome
open WireSchema.Resolved (Declaration TypeKind)

/-! ## Written and resolved declarations -/

/-- A resolved field is the written one with its type resolved. -/
structure Scope.MirrorsField (scope : Scope) (written : Symbol.Field) (f : Resolved.Field) :
    Prop where
  name : f.name = written.name
  isArray : f.isArray = written.isArray
  default : f.default = written.default
  metadata : f.metadata = written.metadata
  type : ∃ declared, scope.resolve? written.typeName = some (f.type.name, declared) ∧
    f.type.kind = .ofDeclared declared

/-- A resolved declaration is the written one, with the same items in the same order. -/
inductive Scope.Mirrors (scope : Scope) (name : String) : Symbol.Declared → Declaration → Prop
  | enum (e : Symbol.Enum) :
      Mirrors scope name (.enum e) (.enum ⟨scope.own name, e.underlying, e.values, e.metadata⟩)
  | union {u : Symbol.Union} {members : List TypeName}
      (hmembers : List.Forall₂ (fun written member =>
        ∃ declared, scope.resolve? written = some (member, declared)) u.members members) :
      Mirrors scope name (.union u) (.union ⟨scope.own name, members, u.metadata⟩)
  | struct {s : Symbol.Compound} {fields : List Resolved.Field}
      (hfields : List.Forall₂ scope.MirrorsField s.fields fields) :
      Mirrors scope name (.struct s)
        (.struct ⟨scope.own name, fields, s.metadata, s.forceAlign?⟩)
  | table {t : Symbol.Compound} {fields : List Resolved.Field}
      (hfields : List.Forall₂ scope.MirrorsField t.fields fields) :
      Mirrors scope name (.table t) (.table ⟨scope.own name, fields, t.metadata, none⟩)

namespace Resolved

variable {scope : Scope} {name : String} {d : Declaration}

theorem mirrorsField_of_field {written : Symbol.Field} {f : Field}
    (h : field scope written = .ok f) : scope.MirrorsField written f := by
  obtain ⟨target, declared, hresolve, rfl⟩ := field_eq_ok_iff.mp h
  exact ⟨rfl, rfl, rfl, rfl, declared, hresolve, rfl⟩

theorem mirrors_of_declaration (h : declaration scope name = .ok d) {declared : Symbol.Declared}
    (hfind : scope.file.find? name = some declared) : scope.Mirrors name declared d := by
  rcases declaration_cases h with ⟨e, he, rfl⟩ | ⟨u, members, hu, hmembers, rfl⟩ |
    ⟨s, fields, hs, hfields, rfl⟩ | ⟨t, fields, ht, hfields, rfl⟩
  · obtain rfl := Option.some.inj (he.symm.trans hfind)
    exact .enum e
  · obtain rfl := Option.some.inj (hu.symm.trans hfind)
    exact .union ((mapM_eq_ok_iff.mp hmembers).imp fun _ _ hm => qualified_eq_ok_iff.mp hm)
  · obtain rfl := Option.some.inj (hs.symm.trans hfind)
    exact .struct ((mapM_eq_ok_iff.mp hfields).imp fun _ _ => mirrorsField_of_field)
  · obtain rfl := Option.some.inj (ht.symm.trans hfind)
    exact .table ((mapM_eq_ok_iff.mp hfields).imp fun _ _ => mirrorsField_of_field)

/-- The fields of a struct or a table. -/
def Declaration.fields : Declaration → List Field
  | .enum _ | .union _ => []
  | .struct c | .table c => c.fields

/-- The kind under which fields refer to a declaration. -/
def Declaration.typeKind : Declaration → TypeKind
  | .enum _ => .enum
  | .union _ => .union
  | .struct _ => .struct
  | .table _ => .table

theorem typeKind_of_kind {declared : Symbol.Declared} (h : d.kind = declared.kind) :
    d.typeKind = .ofDeclared declared := by
  cases d <;> cases declared <;>
    simp [Declaration.kind, Symbol.Declared.kind, Declaration.typeKind, TypeKind.ofDeclared] at h ⊢

/-- A resolved field stands for a written one of a struct or a table. -/
theorem exists_hasField_of_mirrors {declared : Symbol.Declared}
    (h : scope.Mirrors name declared d) (hfind : scope.file.find? name = some declared) {f : Field}
    (hf : f ∈ d.fields) :
    ∃ owner written, scope.file.HasField owner written ∧ scope.MirrorsField written f := by
  have hholds := SymbolTable.holds_of_find? hfind
  cases h with
  | enum e => cases hf
  | union hmembers => cases hf
  | struct hfields =>
    obtain ⟨written, hwritten, hsame⟩ := exists_of_forall₂_of_mem hfields hf
    exact ⟨.struct, written, .struct hholds hwritten, hsame⟩
  | table hfields =>
    obtain ⟨written, hwritten, hsame⟩ := exists_of_forall₂_of_mem hfields hf
    exact ⟨.table, written, .table hholds hwritten, hsame⟩

end Resolved

/-! ## Closed sessions -/

/-- A compiled session has an entry for every declared type, and no reference leads out of it. -/
structure Compiled.IsClosedOver (compiled : Compiled) (session : Session) : Prop where
  complete : ∀ path file, session.file? path = some file → ∀ name declared,
    file.Holds name declared → ∃ entry, compiled.get? ⟨file.scopePath, name⟩ = some entry ∧
      Scope.Mirrors ⟨session, file⟩ name declared entry.declaration
  exact : ∀ key entry, compiled.get? key = some entry → ∃! source : String × Symbol.Declared,
    ∃ file, session.file? source.1 = some file ∧ file.scopePath = key.path ∧
      file.Holds key.name source.2
  keys : compiled.types.keys = compiled.order
  fieldTypes : ∀ key entry, compiled.get? key = some entry → ∀ f ∈ entry.declaration.fields,
    (∃ p, f.type.kind = .primitive p) ∨ ∃ target, compiled.get? f.type.name = some target ∧
      target.declaration.typeKind = f.type.kind
  members : ∀ key entry u, compiled.get? key = some entry → entry.declaration = .union u →
    ∀ member ∈ u.members, ∃ target, compiled.get? member = some target ∧
      target.declaration.kind = .table
  roots : ∀ file ∈ compiled.files, ∀ root ∈ file.rootTypes,
    ∃ target, compiled.get? root = some target ∧ target.declaration.kind = .table
  structFields : ∀ key entry s, compiled.get? key = some entry → entry.declaration = .struct s →
    ∀ f ∈ s.fields, f.isArray = false ∧
      (f.type.kind = .enum ∨ f.type.kind = .struct ∨
        ∃ p, f.type.kind = .primitive p ∧ p.isScalar = true)

namespace Session

variable {session : Session} {settings : CompilerSettings} {compiled : Compiled}
  {declarations : OrderedMap TypeName Declaration}

namespace Compiles

variable (h : session.Compiles settings declarations compiled)

include h

/-- What a written name stands for has an entry of its kind, unless it is a primitive. -/
theorem exists_entry_of_resolve? {file : SymbolTable} (hfile : file ∈ session.files.values)
    {written : String} {target : TypeName} {declared : Symbol.Declared}
    (hresolve : Scope.resolve? ⟨session, file⟩ written = some (target, declared))
    (hkind : declared.kind ≠ .primitive) :
    ∃ entry, compiled.get? target = some entry ∧ entry.declaration.kind = declared.kind := by
  obtain ⟨d, hd, hsame⟩ := h.resolves.get?_of_declares (declares_of_resolve? hfile hresolve hkind)
  obtain ⟨entry, hentry, rfl⟩ := h.produces.exists_entry hd
  exact ⟨entry, hentry, hsame⟩

/-- Every entry mirrors what some file declares. -/
theorem exists_source {key : TypeName} {entry : Compiled.TypeEntry}
    (hentry : compiled.get? key = some entry) :
    ∃ file ∈ session.files.values, ∃ declared, file.scopePath = key.path ∧
      file.find? key.name = some declared ∧
        Scope.Mirrors ⟨session, file⟩ key.name declared entry.declaration := by
  obtain ⟨hd, _⟩ := (h.get?_iff key entry).mp hentry
  obtain ⟨file, hfile, own, declared, rfl, hfind, hdeclaration⟩ := h.resolves.get?_iff.mp hd
  exact ⟨file, hfile, declared, rfl, hfind, Resolved.mirrors_of_declaration hdeclaration hfind⟩

theorem exists_mirror {file : SymbolTable} (hfile : file ∈ session.files.values) {name : String}
    {declared : Symbol.Declared} (hfind : file.find? name = some declared) :
    ∃ entry, compiled.get? ⟨file.scopePath, name⟩ = some entry ∧
      Scope.Mirrors ⟨session, file⟩ name declared entry.declaration := by
  obtain ⟨d, hdeclaration⟩ := h.resolves.verified.exists_declaration hfile hfind
  have hd := h.resolves.get?_iff.mpr ⟨file, hfile, name, declared, rfl, hfind, hdeclaration⟩
  obtain ⟨entry, hentry, rfl⟩ := h.produces.exists_entry hd
  exact ⟨entry, hentry, Resolved.mirrors_of_declaration hdeclaration hfind⟩

theorem exists_entry_of_mirrorsField {file : SymbolTable} (hfile : file ∈ session.files.values)
    {written : Symbol.Field} {f : Resolved.Field}
    (hf : Scope.MirrorsField ⟨session, file⟩ written f) :
    (∃ p, f.type.kind = .primitive p) ∨ ∃ target, compiled.get? f.type.name = some target ∧
      target.declaration.typeKind = f.type.kind := by
  obtain ⟨declared, hresolve, hkind⟩ := hf.type
  by_cases hprimitive : declared.kind = .primitive
  · cases declared <;> cases hprimitive
    exact .inl ⟨_, hkind⟩
  · obtain ⟨target, htarget, hsame⟩ := h.exists_entry_of_resolve? hfile hresolve hprimitive
    exact .inr ⟨target, htarget, hkind ▸ Resolved.typeKind_of_kind hsame⟩

theorem exists_entry_of_mem_fields {key : TypeName} {entry : Compiled.TypeEntry}
    (hentry : compiled.get? key = some entry) {f : Resolved.Field}
    (hf : f ∈ entry.declaration.fields) :
    (∃ p, f.type.kind = .primitive p) ∨ ∃ target, compiled.get? f.type.name = some target ∧
      target.declaration.typeKind = f.type.kind := by
  obtain ⟨file, hfile, declared, _, hfind, hmirrors⟩ := h.exists_source hentry
  obtain ⟨_, written, _, hwritten⟩ := Resolved.exists_hasField_of_mirrors hmirrors hfind hf
  exact h.exists_entry_of_mirrorsField hfile hwritten

/-- A name that a table is expected under leads to one. -/
theorem exists_table_of_resolve? {file : SymbolTable} (hfile : file ∈ session.files.values)
    {written : String} {target : TypeName} {t : Symbol.Compound}
    (hresolve : Scope.resolve? ⟨session, file⟩ written = some (target, .table t)) :
    ∃ entry, compiled.get? target = some entry ∧ entry.declaration.kind = .table :=
  h.exists_entry_of_resolve? hfile hresolve (by simp [Symbol.Declared.kind])

theorem exists_table_of_mem_members {key : TypeName} {entry : Compiled.TypeEntry}
    {u : Resolved.Union} (hentry : compiled.get? key = some entry)
    (hunion : entry.declaration = .union u) {member : TypeName} (hmember : member ∈ u.members) :
    ∃ target, compiled.get? member = some target ∧ target.declaration.kind = .table := by
  obtain ⟨file, hfile, declared, _, hfind, hmirrors⟩ := h.exists_source hentry
  rw [hunion] at hmirrors
  cases hmirrors with
  | union hmembers =>
    obtain ⟨written, hwritten, declared, hresolve⟩ := exists_of_forall₂_of_mem hmembers hmember
    obtain ⟨target, t, htable⟩ :=
      h.resolves.verified.members file hfile _ _ hfind written hwritten
    cases hresolve.symm.trans htable
    exact h.exists_table_of_resolve? hfile hresolve

theorem exists_table_of_mem_rootTypes {file : Compiled.File} (hfile : file ∈ compiled.files)
    {root : TypeName} (hroot : root ∈ file.rootTypes) :
    ∃ target, compiled.get? root = some target ∧ target.declaration.kind = .table := by
  obtain ⟨⟨path, source⟩, hentry, hfileOf⟩ := (mem_iff_of_mapM_eq_ok h.files).mp hfile
  have hsource : source ∈ session.files.values := List.mem_map.mpr ⟨_, hentry, rfl⟩
  obtain ⟨roots, hroots, heq⟩ := bind_eq_ok_iff.mp hfileOf
  cases heq
  obtain ⟨written, hwritten, hqualified⟩ := (mem_iff_of_mapM_eq_ok hroots).mp hroot
  obtain ⟨declared, hresolve⟩ := Resolved.qualified_eq_ok_iff.mp hqualified
  obtain ⟨target, t, htable⟩ := h.resolves.verified.roots source hsource written hwritten
  cases hresolve.symm.trans htable
  exact h.exists_table_of_resolve? hsource hresolve

theorem fixedSize_of_mem_fields {key : TypeName} {entry : Compiled.TypeEntry}
    {s : Resolved.Compound} (hentry : compiled.get? key = some entry)
    (hstruct : entry.declaration = .struct s) {f : Resolved.Field} (hf : f ∈ s.fields) :
    f.isArray = false ∧ (f.type.kind = .enum ∨ f.type.kind = .struct ∨
      ∃ p, f.type.kind = .primitive p ∧ p.isScalar = true) := by
  obtain ⟨file, hfile, declared, _, hfind, hmirrors⟩ := h.exists_source hentry
  obtain ⟨_, _, hwell⟩ := (Rules.session_eq_ok_iff.mp h.rules).2 file hfile
  rw [hstruct] at hmirrors
  cases hmirrors with
  | struct hfields =>
    obtain ⟨written, hwritten, hsame⟩ := exists_of_forall₂_of_mem hfields hf
    obtain ⟨declared, hresolve, hkind⟩ := hsame.type
    obtain ⟨target, other, hother, hadmits⟩ :=
      hwell.fields .struct written (.struct (SymbolTable.holds_of_find? hfind) hwritten)
    cases hresolve.symm.trans hother
    obtain ⟨harray, _, hclass⟩ := hadmits.inStruct rfl
    refine ⟨hsame.isArray.trans harray, ?_⟩
    rw [hkind]
    rcases hclass with henum | hstruct | ⟨p, rfl, hp⟩
    · cases declared <;> cases henum
      exact .inl rfl
    · cases declared <;> cases hstruct
      exact .inr (.inl rfl)
    · exact .inr (.inr ⟨p, rfl, by simpa [Primitive.isScalar] using hp⟩)

/-- What the stages leave behind is closed. -/
theorem isClosedOver (hbuilt : ∀ file ∈ session.files.values, file.Built) :
    compiled.IsClosedOver session where
  complete path file hfile name declared hholds := by
    have hmem : file ∈ session.files.values := OrderedMap.mem_values_iff.mpr ⟨path, hfile⟩
    exact h.exists_mirror hmem ((hbuilt file hmem).find?_eq_some_iff.mpr hholds)
  exact key entry hentry := by
    obtain ⟨file, hmem, declared, hpath, hfind, _⟩ := h.exists_source hentry
    obtain ⟨path, hfile⟩ := OrderedMap.mem_values_iff.mp hmem
    have hholds := SymbolTable.holds_of_find? hfind
    refine ⟨(path, declared), ⟨file, hfile, hpath, hholds⟩, ?_⟩
    rintro ⟨path', declared'⟩ ⟨file', hfile', hpath', hholds'⟩
    obtain rfl : path' = path := (Rules.names_nodup_iff hbuilt).mp h.resolves.verified.unique
      path' path file' file hfile' hfile (hpath'.trans hpath.symm) _ _ _ hholds' hholds
    cases hfile.symm.trans hfile'
    rw [(hbuilt file hmem).holds_unique hholds hholds']
  keys := h.keys
  fieldTypes _ _ hentry _ hf := h.exists_entry_of_mem_fields hentry hf
  members _ _ _ hentry hunion _ hmember := h.exists_table_of_mem_members hentry hunion hmember
  roots _ hfile _ hroot := h.exists_table_of_mem_rootTypes hfile hroot
  structFields _ _ _ hentry hstruct _ hf := h.fixedSize_of_mem_fields hentry hstruct hf

end Compiles

/-- **Closure.** A compiled session of registered texts is closed over the session, whose files are what
the texts declare. -/
theorem compile_isClosedOver {texts : List (String × String)}
    (hregister : registerTexts {} texts = .ok session)
    (hcompile : session.compile settings = .ok compiled) :
    compiled.IsClosedOver session ∧ session.ReadFrom texts := by
  have hbuilt := built_of_registerTexts hregister
  obtain ⟨declarations, h⟩ := compiles_of_compile hbuilt hcompile
  exact ⟨h.isClosedOver hbuilt, readFrom_of_registerTexts hregister⟩

/-- A root and a union of tables in one file, a struct with an enum in another. -/
def atlasTexts : List (String × String) :=
  [("map", "namespace a.b; root_type T; union U { T } table T { d: [D]; h: H = R; }"),
   ("base", "namespace a; enum H: ubyte { R } struct D { h: H; }")]

def atlasSession : Session :=
  ((registerTexts {} atlasTexts).toOption).getD {}

theorem atlas_isClosedOver :
    registerTexts {} atlasTexts = .ok atlasSession ∧ ∃ compiled,
      atlasSession.compile {} = .ok compiled ∧ compiled.types.keys.length = 4 ∧
        compiled.IsClosedOver atlasSession := by
  have hregister : registerTexts {} atlasTexts = .ok atlasSession := eq_ok_getD (by decide +kernel)
  have hsize : ((atlasSession.compile {}).toOption.map fun c => c.types.keys.length) = some 4 := by
    decide +kernel
  obtain ⟨compiled, hcompiled, hlength⟩ := Option.map_eq_some_iff.mp hsize
  have hcompile := eq_ok_of_toOption hcompiled
  exact ⟨hregister, compiled, hcompile, hlength, (compile_isClosedOver hregister hcompile).1⟩

end Session

end WireSchema
