/-
WireSchema.Proofs.Session.Declarations — what the resolved declarations of a session are.

`Session.declared` lists every declared name in its scope, in registration and source order.

* `declarations_name` — a declaration stands under its own name.
* `mapM_entryOf_declared` — where no qualified name is declared twice, the resolved declarations are,
  one by one and in the same order, those of the declared names.
* `exists_declarations` — resolving a session succeeds once each of its declarations resolves.
-/
import WireSchema.Proofs.Outcome
import WireSchema.Resolved

namespace WireSchema

open WireSchema.Outcome
open WireSchema.Resolved (Declaration)

/-- Inserting under keys that are new appends the entries in order. -/
theorem OrderedMap.mapM_of_foldlM_insert {ι κ α ε : Type} [DecidableEq κ]
    {f : ι → Except ε (κ × α)} {key : ι → κ}
    (hkey : ∀ item entry, f item = .ok entry → key item = entry.1) {items : List ι}
    {done result : OrderedMap κ α}
    (h : items.foldlM (fun done item => do
      let entry ← f item
      return done.insert entry.1 entry.2) done = .ok result)
    (hnew : (done.keys ++ items.map key).Nodup) :
    ∃ added, result.entries = done.entries ++ added ∧ items.mapM f = .ok added := by
  induction items generalizing done with
  | nil =>
    rw [List.foldlM_nil] at h
    obtain rfl := Except.ok.inj h
    exact ⟨[], by simp, rfl⟩
  | cons item rest ih =>
    rw [List.foldlM_cons] at h
    obtain ⟨after, hstep, hrest⟩ := bind_eq_ok_iff.mp h
    obtain ⟨entry, hentry, heq⟩ := bind_eq_ok_iff.mp hstep
    cases heq
    rw [List.map_cons, hkey item entry hentry] at hnew
    have hfresh : entry.1 ∉ done.keys := fun hmem =>
      (List.nodup_append.mp hnew).2.2 _ hmem _ List.mem_cons_self rfl
    -- a repeated key would replace an earlier entry instead
    have hentries := entries_insert_fresh entry.2 hfresh
    obtain ⟨added, hadded, hall⟩ := ih hrest (by simpa [keys, hentries] using hnew)
    refine ⟨entry :: added, by simp [hadded, hentries], ?_⟩
    rw [List.mapM_cons, hentry, hall]
    rfl

/-- The qualified name of a local name. -/
def Scope.own (scope : Scope) (name : String) : TypeName :=
  ⟨scope.file.scopePath, name⟩

/-- Every declared name of a session in the scope of its file, in order. -/
def Session.declared (session : Session) : List (Scope × String) :=
  session.files.values.flatMap fun file =>
    file.declarationOrder.map fun name => (⟨session, file⟩, name)

/-- The qualified names a session declares, in order. -/
def Session.names (session : Session) : List TypeName :=
  session.declared.map fun item => item.1.own item.2

namespace Resolved

variable {session : Session} {declarations : OrderedMap TypeName Declaration}

theorem mem_declared {item : Scope × String} :
    item ∈ session.declared ↔ ∃ file ∈ session.files.values, ∃ name ∈ file.declarationOrder,
      (⟨session, file⟩, name) = item := by
  simp only [Session.declared, List.mem_flatMap, List.mem_map]

/-- A resolved declaration carries the qualified name of what it resolves. -/
theorem declaration_name {scope : Scope} {name : String} {d : Declaration}
    (h : declaration scope name = .ok d) : d.name = scope.own name := by
  unfold declaration at h
  split at h
  · cases h; rfl
  · obtain ⟨members, _, hd⟩ := bind_eq_ok_iff.mp h
    cases hd; rfl
  · obtain ⟨fields, _, hd⟩ := bind_eq_ok_iff.mp h
    cases hd; rfl
  · obtain ⟨fields, _, hd⟩ := bind_eq_ok_iff.mp h
    cases hd; rfl
  · cases h
  · cases h

/-- The declaration of one name, under its qualified name. -/
def entryOf (item : Scope × String) : Except Error (TypeName × Declaration) := do
  let resolved ← declaration item.1 item.2
  return (resolved.name, resolved)

theorem entryOf_eq_ok_iff {item : Scope × String} {entry : TypeName × Declaration} :
    entryOf item = .ok entry ↔
      item.1.own item.2 = entry.1 ∧ declaration item.1 item.2 = .ok entry.2 := by
  rw [entryOf, bind_eq_ok_iff]
  constructor
  · rintro ⟨d, hd, heq⟩
    cases heq
    exact ⟨(declaration_name hd).symm, hd⟩
  · rintro ⟨hname, hd⟩
    exact ⟨entry.2, hd, by rw [declaration_name hd, hname]; rfl⟩

/-- The declarations are added name by name. -/
theorem declarations_eq_foldlM (session : Session) :
    Resolved.declarations session = session.declared.foldlM (fun done item => do
      let entry ← entryOf item
      return done.insert entry.1 entry.2) {} := by
  rw [Session.declared, foldlM_flatMap, Resolved.declarations]
  simp only [List.foldlM_map, entryOf, bind_assoc, pure_bind]

/-- A declaration stands under its own name. -/
theorem declarations_name (h : Resolved.declarations session = .ok declarations) {name : TypeName}
    {d : Declaration} (hd : declarations.get? name = some d) : d.name = name := by
  have hrun := declarations_eq_foldlM session ▸ h
  refine foldlM_invariant (P := fun done => ∀ name d, done.get? name = some d → d.name = name)
    ?_ (fun name d hd => by simp at hd) hrun name d hd
  intro done hdone item _ after hstep name d hd
  obtain ⟨entry, hentry, heq⟩ := bind_eq_ok_iff.mp hstep
  cases heq
  obtain ⟨hown, hresolved⟩ := entryOf_eq_ok_iff.mp hentry
  rw [OrderedMap.get?_insert] at hd
  split at hd
  · rename_i hname
    rw [hname, ← Option.some.inj hd, ← hown]
    exact declaration_name hresolved
  · exact hdone name d hd

/-- With distinct names, the declarations are those of the declared names, in order. -/
theorem mapM_entryOf_declared (h : Resolved.declarations session = .ok declarations)
    (hunique : session.names.Nodup) :
    session.declared.mapM entryOf = .ok declarations.entries := by
  have hrun := declarations_eq_foldlM session ▸ h
  obtain ⟨added, hentries, hall⟩ :=
    OrderedMap.mapM_of_foldlM_insert (fun _ _ hentry => (entryOf_eq_ok_iff.mp hentry).1) hrun
      (by simpa [OrderedMap.keys, Session.names] using hunique)
  rw [hall, hentries]
  rfl

/-- With distinct names, a qualified name has the declaration of the one name it qualifies. -/
theorem get?_declarations_iff (h : Resolved.declarations session = .ok declarations)
    (hunique : session.names.Nodup) {name : TypeName} {d : Declaration} :
    declarations.get? name = some d ↔ ∃ item ∈ session.declared,
      item.1.own item.2 = name ∧ declaration item.1 item.2 = .ok d := by
  rw [OrderedMap.get?_eq_some_iff, mem_iff_of_mapM_eq_ok (mapM_entryOf_declared h hunique)]
  simp only [entryOf_eq_ok_iff]

/-- Resolving a session succeeds once each declaration resolves. -/
theorem exists_declarations
    (h : ∀ item ∈ session.declared, ∃ d, declaration item.1 item.2 = .ok d) :
    ∃ declarations, Resolved.declarations session = .ok declarations := by
  rw [declarations_eq_foldlM]
  refine exists_foldlM_eq_ok fun done item hitem => ?_
  obtain ⟨d, hd⟩ := h item hitem
  have hentry : entryOf item = .ok (item.1.own item.2, d) := entryOf_eq_ok_iff.mpr ⟨rfl, hd⟩
  exact ⟨_, bind_eq_ok_iff.mpr ⟨_, hentry, rfl⟩⟩

end Resolved

end WireSchema
