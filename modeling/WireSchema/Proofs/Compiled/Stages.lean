/-
WireSchema.Proofs.Compiled.Stages — what a compiled session is made of.

`Session.Produces` collects what the stages of a compilation leave behind: the resolved declarations,
their order, and under every name its declaration with its reference layout in machine words. Every
session that compiles has it (`produces_of_compile`). `Session.Compiles` adds what built files know about their
names (`compiles_of_compile`).
-/
import WireSchema.Proofs.Session.Compile

namespace WireSchema

open WireSchema.Order
open WireSchema.Outcome
open WireSchema.Resolved (Declaration)

/-! ## Forced alignments -/

theorem Symbol.Compound.mem_of_forceAlign? {c : Symbol.Compound} {bytes : Nat}
    (h : c.forceAlign? = some bytes) : .forceAlign bytes ∈ c.metadata := by
  obtain ⟨entry, hentry, hfound⟩ := List.exists_of_findSome?_eq_some h
  cases entry <;> cases hfound
  exact hentry

namespace Resolved

variable {session : Session} {settings : CompilerSettings}
  {declarations : OrderedMap TypeName Declaration}
  (h : Resolved.declarations session = .ok declarations)
  (hrules : Rules.session session settings = .ok ())

include h hrules

/-- What a struct forces is a power of two, at most 256. -/
theorem forceAlign_of_rules {name : TypeName} {s : Compound}
    (hs : declarations.get? name = some (.struct s)) {bytes : Nat}
    (hbytes : s.forceAlign = some bytes) : bytes.isPowerOfTwo ∧ bytes ≤ 256 := by
  obtain ⟨hunique, hfiles⟩ := Rules.session_eq_ok_iff.mp hrules
  obtain ⟨item, hitem, _, hdeclaration⟩ := (get?_declarations_iff h hunique).mp hs
  obtain ⟨file, hfile, own, _, rfl⟩ := mem_declared.mp hitem
  obtain ⟨_, _, hwell⟩ := hfiles file hfile
  rcases declaration_cases hdeclaration with ⟨_, _, heq⟩ | ⟨_, _, _, _, heq⟩ |
    ⟨written, _, hfind, _, heq⟩ | ⟨_, _, _, _, heq⟩ <;> cases heq
  have hholds := SymbolTable.holds_of_find? hfind
  have hentry := Symbol.Compound.mem_of_forceAlign? hbytes
  exact ((hwell.metadata own _ hholds).alignment bytes hentry).2

theorem alignsToWords_of_rules : LayoutCache.AlignsToWords declarations.get? := by
  intro name s bytes hs hbytes
  obtain ⟨hpower, hle⟩ := forceAlign_of_rules h hrules hs hbytes
  exact dvd_of_isPowerOfTwo_of_le hpower ⟨64, rfl⟩ (hle.trans (by decide))

end Resolved

/-! ## Assembling -/

namespace Compiled

variable {declarations : OrderedMap TypeName Declaration} {all : OrderedMap TypeName Layout}
  {order : List TypeName} {types result : OrderedMap TypeName TypeEntry}

/-- Distinct names are added in their order, each with its declaration and its layout. -/
theorem entries_of_assemble (h : assemble types declarations all order = .ok result)
    (hnodup : order.Nodup) (hfresh : ∀ name ∈ order, name ∉ types.keys) :
    ∃ added, result.entries = types.entries ++ added ∧ List.Forall₂ (fun name entry =>
      entry.1 = name ∧ declarations.get? name = some entry.2.declaration ∧
        all.get? name = some entry.2.layout) order added := by
  induction order generalizing types declarations all with
  | nil =>
    cases h
    exact ⟨[], by simp, .nil⟩
  | cons name rest ih =>
    rw [List.nodup_cons] at hnodup
    rw [List.forall_mem_cons] at hfresh
    have hne : ∀ other ∈ rest, other ≠ name := fun other hother heq => hnodup.1 (heq ▸ hother)
    rw [assemble] at h
    split at h
    · rename_i declaration layout hd hl
      have hrest : ∀ other ∈ rest, other ∉ (types.insert name ⟨declaration, layout⟩).keys := by
        intro other hother hmem
        rcases OrderedMap.mem_keys_insert.mp hmem with heq | hmem
        · exact hne other hother heq
        · exact hfresh.2 other hother hmem
      obtain ⟨added, hentries, hall⟩ := ih h hnodup.2 hrest
      refine ⟨(name, ⟨declaration, layout⟩) :: added, ?_, .cons ⟨rfl, hd, hl⟩ ?_⟩
      · rw [hentries, OrderedMap.entries_insert_fresh _ hfresh.1, List.append_assoc]
        rfl
      -- the entries behind were found in maps without the name, which they do not have
      · refine ((List.forall₂_and_left _ _).mpr ⟨hne, hall⟩).imp fun other entry hentry => ?_
        obtain ⟨hother, heq, hdeclared, hlaid⟩ := hentry
        rw [OrderedMap.get?_erase_of_ne hother] at hdeclared hlaid
        exact ⟨heq, hdeclared, hlaid⟩
    · cases h

variable (h : assemble {} declarations all order = .ok types) (hnodup : order.Nodup)

include h hnodup

theorem keys_of_assemble : types.keys = order := by
  obtain ⟨added, hentries, hall⟩ := entries_of_assemble h hnodup fun _ _ => List.not_mem_nil
  have hkeys : List.Forall₂ (fun name key => key = name) order (added.map (·.1)) := by
    rw [List.forall₂_map_right_iff]
    exact hall.imp fun _ _ hentry => hentry.1
  rw [OrderedMap.keys, hentries]
  exact (List.forall₂_eq_eq_eq ▸ hkeys.flip : added.map (·.1) = order)

theorem get?_of_assemble {name : TypeName} {entry : TypeEntry} :
    types.get? name = some entry ↔ name ∈ order ∧
      declarations.get? name = some entry.declaration ∧ all.get? name = some entry.layout := by
  obtain ⟨added, hentries, hall⟩ := entries_of_assemble h hnodup fun _ _ => List.not_mem_nil
  have hentries : types.entries = added := hentries
  rw [OrderedMap.get?_eq_some_iff, hentries]
  constructor
  · intro hmem
    obtain ⟨other, hother, rfl, hd, hl⟩ := exists_of_forall₂_of_mem hall hmem
    exact ⟨hother, hd, hl⟩
  · rintro ⟨hname, hd, hl⟩
    obtain ⟨⟨key, declaration, layout⟩, hmem, rfl, hd', hl'⟩ :=
      exists_of_forall₂_of_mem hall.flip hname
    cases hd.symm.trans hd'
    cases hl.symm.trans hl'
    exact hmem

end Compiled

/-! ## The stages -/

namespace Session

variable {session : Session} {settings : CompilerSettings} {compiled : Compiled}
  {declarations : OrderedMap TypeName Declaration}

/-- What the stages of a compilation leave behind, whatever the files of the session hold. -/
structure Produces (session : Session) (settings : CompilerSettings)
    (declarations : OrderedMap TypeName Declaration) (compiled : Compiled) : Prop where
  declarations_eq : Resolved.declarations session = .ok declarations
  rules : Rules.session session settings = .ok ()
  discriminant : settings.discriminant = .ok compiled.unionDiscriminant
  order : establish declarations = .ok compiled.order
  keys : compiled.types.keys = compiled.order
  get?_iff : ∀ name entry, compiled.get? name = some entry ↔
    declarations.get? name = some entry.declaration ∧
      WordLayout declarations.get? compiled.unionDiscriminant entry.declaration entry.layout
  files : (session.files.entries.mapM fun entry =>
    Compiled.fileOf session compiled.order entry.1 entry.2) = .ok compiled.files

/-- What the stages of a compilation leave behind. -/
structure Compiles (session : Session) (settings : CompilerSettings)
    (declarations : OrderedMap TypeName Declaration) (compiled : Compiled) : Prop where
  resolves : session.Resolves declarations
  rules : Rules.session session settings = .ok ()
  discriminant : settings.discriminant = .ok compiled.unionDiscriminant
  order : establish declarations = .ok compiled.order
  keys : compiled.types.keys = compiled.order
  get?_iff : ∀ name entry, compiled.get? name = some entry ↔
    declarations.get? name = some entry.declaration ∧
      WordLayout declarations.get? compiled.unionDiscriminant entry.declaration entry.layout
  files : (session.files.entries.mapM fun entry =>
    Compiled.fileOf session compiled.order entry.1 entry.2) = .ok compiled.files

theorem Compiles.produces (h : session.Compiles settings declarations compiled) :
    session.Produces settings declarations compiled :=
  ⟨h.resolves.declarations_eq, h.rules, h.discriminant, h.order, h.keys, h.get?_iff, h.files⟩

/-- No declaration is lost on the way. -/
theorem Produces.exists_entry (h : session.Produces settings declarations compiled)
    {name : TypeName} {d : Declaration} (hd : declarations.get? name = some d) :
    ∃ entry, compiled.get? name = some entry ∧ entry.declaration = d := by
  have hown : ∀ entry ∈ declarations.entries, entry.2.name = entry.1 := fun _ hentry =>
    Resolved.declarations_name h.declarations_eq (OrderedMap.get?_eq_some_iff.mpr hentry)
  have hkey : name ∈ compiled.types.keys := by
    rw [h.keys, (perm_keys_of_establish hown h.order).mem_iff]
    exact OrderedMap.mem_keys_iff.mpr ⟨d, hd⟩
  obtain ⟨entry, hentry⟩ := OrderedMap.mem_keys_iff.mp hkey
  refine ⟨entry, hentry, ?_⟩
  exact Option.some.inj (((h.get?_iff name entry).mp hentry).1.symm.trans hd)

/-- Layouts computed along an order are the reference layouts in machine words. -/
theorem reference_of_layouts (hwords : LayoutCache.AlignsToWords declarations.get?)
    (hown : ∀ entry ∈ declarations.entries, entry.2.name = entry.1)
    {discriminant : Primitive} (hdiscriminant : discriminant.isDiscriminant = true)
    {order : List TypeName} {all : OrderedMap TypeName Layout}
    (hall : layouts declarations order discriminant = .ok all) :
    ∀ name layout, all.get? name = some layout → ∃ d, declarations.get? name = some d ∧
      WordLayout declarations.get? discriminant d layout := by
  unfold layouts at hall
  split at hall
  · rename_i cache hrun
    cases hall
    exact (LayoutCache.Sound.empty.run_resolveAll hwords hdiscriminant hown hrun).reference
  · cases hall

/-- Every compilation that succeeds has been through all stages. -/
theorem produces_of_compile (h : session.compile settings = .ok compiled) :
    ∃ declarations, session.Produces settings declarations compiled := by
  simp only [compile, bind_eq_ok_iff] at h
  obtain ⟨discriminant, hsettings, ⟨⟩, hrules, declarations, hdeclarations, order, horder, all, hall,
    types, htypes, files, hfiles, hcompiled⟩ := h
  cases hcompiled
  have hown : ∀ entry ∈ declarations.entries, entry.2.name = entry.1 := fun _ hentry =>
    Resolved.declarations_name hdeclarations (OrderedMap.get?_eq_some_iff.mpr hentry)
  have hperm := perm_keys_of_establish hown horder
  have hnodup : order.Nodup := hperm.nodup_iff.mpr declarations.nodup
  have hreference := reference_of_layouts (Resolved.alignsToWords_of_rules hdeclarations hrules) hown
    (Rules.isDiscriminant_of_settings hsettings) hall
  have hkeys := Compiled.keys_of_assemble htypes hnodup
  refine ⟨declarations, hdeclarations, hrules, hsettings, horder, hkeys, ?_, hfiles⟩
  intro name entry
  rw [Compiled.get?, Compiled.get?_of_assemble htypes hnodup]
  constructor
  · intro h
    obtain ⟨_, hd, hl⟩ := h
    obtain ⟨d, hd', href⟩ := hreference name _ hl
    cases hd.symm.trans hd'
    exact ⟨hd, href⟩
  · intro h
    obtain ⟨hd, href⟩ := h
    have hmem : name ∈ order := hperm.mem_iff.mpr (OrderedMap.mem_keys_iff.mpr ⟨_, hd⟩)
    -- no ordered name is lost, so a layout was computed for this one
    obtain ⟨found, hfound⟩ := OrderedMap.mem_keys_iff.mp (hkeys.symm ▸ hmem)
    obtain ⟨_, _, hl⟩ := (Compiled.get?_of_assemble htypes hnodup).mp hfound
    obtain ⟨d, hd', href'⟩ := hreference name _ hl
    cases hd.symm.trans hd'
    exact ⟨hmem, hd, href.unique href' ▸ hl⟩

theorem Produces.compiles_of_listed (h : session.Produces settings declarations compiled)
    (hlisted : ∀ file ∈ session.files.values, file.Listed) :
    session.Compiles settings declarations compiled :=
  ⟨⟨hlisted, Rules.verified_of_rules h.rules, h.declarations_eq⟩, h.rules, h.discriminant,
    h.order, h.keys, h.get?_iff, h.files⟩

theorem compiles_of_compile (hbuilt : ∀ file ∈ session.files.values, file.Built)
    (h : session.compile settings = .ok compiled) :
    ∃ declarations, session.Compiles settings declarations compiled := by
  obtain ⟨declarations, hproduces⟩ := produces_of_compile h
  exact ⟨declarations, hproduces.compiles_of_listed fun file hfile => (hbuilt file hfile).listed⟩

end Session

end WireSchema
