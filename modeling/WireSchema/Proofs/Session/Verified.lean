/-
WireSchema.Proofs.Session.Verified — what a session that keeps the rules can rely on.

`Session.Verified` collects it: no qualified name is declared twice, root types and union members
stand for tables, and the type of every field stands for something. `verified_of_rules` reads it off
the rules. `Scope.resolve?_cases` says where a resolved name comes from, so that
`Session.declares_of_resolve?` finds the declaration behind every name that is no primitive's.
-/
import WireSchema.Proofs.Session.WellFormed

namespace WireSchema

open WireSchema.Outcome

/-! ## Where resolved names come from -/

/-- Some file of the session declares a qualified name as a type. -/
def Session.Declares (session : Session) (name : TypeName) (declared : Symbol.Declared) : Prop :=
  ∃ file ∈ session.files.values, file.scopePath = name.path ∧ file.find? name.name = some declared

namespace Scope

variable {scope : Scope}

theorem lookup?_cases {candidate : TypeName} {declared : Symbol.Declared}
    (h : scope.lookup? candidate = some declared) :
    ∃ file, (file = scope.file ∨ file ∈ scope.session.files.values) ∧
      file.scopePath = candidate.path ∧ file.find? candidate.name = some declared := by
  simp only [lookup?, Option.or_eq_some_iff, Option.ite_none_right_eq_some, beq_iff_eq] at h
  rcases h with ⟨hpath, hfind⟩ | ⟨_, hother⟩
  · exact ⟨scope.file, .inl rfl, hpath, hfind⟩
  · obtain ⟨file, hfile, hfound⟩ := List.exists_of_findSome?_eq_some hother
    rw [Option.ite_none_right_eq_some] at hfound
    exact ⟨file, .inr hfile, hfound.1, hfound.2⟩

/-- A name stands for a primitive, or for what the file or a registered one declares under the
qualified name. -/
theorem resolve?_cases {name : String} {qualified : TypeName} {declared : Symbol.Declared}
    (h : scope.resolve? name = some (qualified, declared)) :
    (∃ p, declared = .primitive p) ∨
    ∃ file, (file = scope.file ∨ file ∈ scope.session.files.values) ∧
      file.scopePath = qualified.path ∧ file.find? qualified.name = some declared := by
  unfold resolve? at h
  split at h
  · rename_i p _
    cases h
    exact .inl ⟨p, rfl⟩
  · refine .inr ?_
    split at h
    · rename_i hlocal
      cases h
      unfold local? at hlocal
      split at hlocal
      · cases hlocal
      · exact ⟨scope.file, .inl rfl, rfl, hlocal⟩
    · obtain ⟨candidate, _, hfound⟩ := List.exists_of_findSome?_eq_some h
      obtain ⟨found, hlookup, heq⟩ := Option.map_eq_some_iff.mp hfound
      cases heq
      exact lookup?_cases hlookup

end Scope

/-- A name that is no primitive's stands for a declaration of the session. -/
theorem Session.declares_of_resolve? {session : Session} {file : SymbolTable}
    (hfile : file ∈ session.files.values) {name : String} {qualified : TypeName}
    {declared : Symbol.Declared}
    (h : Scope.resolve? ⟨session, file⟩ name = some (qualified, declared))
    (hkind : declared.kind ≠ .primitive) : session.Declares qualified declared := by
  rcases Scope.resolve?_cases h with ⟨p, rfl⟩ | ⟨other, rfl | hother, hpath, hfind⟩
  · exact absurd rfl hkind
  · exact ⟨_, hfile, hpath, hfind⟩
  · exact ⟨other, hother, hpath, hfind⟩

/-! ## What the rules guarantee -/

/-- What holds of a session that keeps the rules, as far as names are concerned. -/
structure Session.Verified (session : Session) : Prop where
  unique : session.names.Nodup
  roots : ∀ file ∈ session.files.values, ∀ root ∈ file.rootTypes,
    ∃ qualified t, Scope.resolve? ⟨session, file⟩ root = some (qualified, .table t)
  members : ∀ file ∈ session.files.values, ∀ name u, file.find? name = some (.union u) →
    ∀ member ∈ u.members,
      ∃ qualified t, Scope.resolve? ⟨session, file⟩ member = some (qualified, .table t)
  fields : ∀ file ∈ session.files.values, ∀ name c,
    file.find? name = some (.struct c) ∨ file.find? name = some (.table c) → ∀ f ∈ c.fields,
      ∃ qualified declared, Scope.resolve? ⟨session, file⟩ f.typeName = some (qualified, declared)

/-- A session that keeps the rules is verified. -/
theorem Rules.verified_of_rules {session : Session} {settings : CompilerSettings}
    (h : Rules.session session settings = .ok ()) : session.Verified := by
  obtain ⟨hunique, hfiles⟩ := session_eq_ok_iff.mp h
  constructor
  · exact hunique
  · intro file hfile
    obtain ⟨_, _, hwell⟩ := hfiles file hfile
    exact hwell.roots
  · intro file hfile name u hfind
    obtain ⟨_, _, hwell⟩ := hfiles file hfile
    exact hwell.members name u (SymbolTable.holds_of_find? hfind)
  · intro file hfile name c hfind f hf
    obtain ⟨_, _, hwell⟩ := hfiles file hfile
    have hfield : ∃ owner, file.HasField owner f := by
      rcases hfind with hfind | hfind
      · exact ⟨_, .struct (SymbolTable.holds_of_find? hfind) hf⟩
      · exact ⟨_, .table (SymbolTable.holds_of_find? hfind) hf⟩
    obtain ⟨owner, hfield⟩ := hfield
    obtain ⟨qualified, declared, hresolve, _⟩ := hwell.fields owner f hfield
    exact ⟨qualified, declared, hresolve⟩

end WireSchema
