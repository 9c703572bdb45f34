/-
WireSchema.Proofs.Compiled.Unions — when the members of a union are different tables.

A union lists no text twice, but two texts may stand for one table: `Ship` and `sea.Ship`, written in
the namespace `sea`. This happens in one way only. The longer text repeats a piece of the file's
namespace in front of the shorter one and is declared outside that piece, the shorter one inside it
(`Scope.Respells`). Every other pair of texts resolves to different names (`Scope.under_eq_iff`).

Main statement: `Session.compile_members_nodup_iff`.
-/
import WireSchema.Proofs.Compiled.Closed
import WireSchema.Proofs.Session.Resolution
import WireSchema.Proofs.SymbolTable.WellFormed

namespace WireSchema

open WireSchema.Outcome
open WireSchema.Resolved (Declaration)

/-! ## Two spellings of one name -/

namespace Scope

/-- The longer reference is the shorter one behind a piece of the file's namespace; the longest
prefix that declares it ends where the piece begins, that of the shorter one where the piece
ends. -/
def Respells (scope : Scope) (long short : TypeName) : Prop :=
  ∃ outer inner, outer < inner ∧ IsGreatest (scope.depths long) outer ∧
    IsGreatest (scope.depths short) inner ∧
      long = ⟨(scope.file.scopePath.take inner).drop outer ++ short.path, short.name⟩

theorem take_append_drop_take (path : List String) {outer inner : Nat} (h : outer ≤ inner) :
    path.take outer ++ (path.take inner).drop outer = path.take inner := by
  have htake : (path.take inner).take outer = path.take outer := by
    rw [List.take_take, Nat.min_eq_left h]
  rw [← htake, List.take_append_drop]

variable {scope : Scope} {a b : TypeName}

/-- Two references stand for one name when the one that is qualified further out spells out what
lies between. -/
theorem under_eq_under_iff {outer inner : Nat} (h : outer ≤ inner) :
    scope.under a outer = scope.under b inner ↔
      a = ⟨(scope.file.scopePath.take inner).drop outer ++ b.path, b.name⟩ := by
  obtain ⟨path, name⟩ := a
  have hpath : scope.file.scopePath.take inner ++ b.path =
      scope.file.scopePath.take outer ++
        ((scope.file.scopePath.take inner).drop outer ++ b.path) := by
    rw [← List.append_assoc, take_append_drop_take _ h]
  simp only [under, TypeName.mk.injEq, hpath, List.append_cancel_left_eq]

theorem Respells.ne (h : scope.Respells a b) : a ≠ b := by
  obtain ⟨outer, inner, hlt, ha, hb, _⟩ := h
  rintro rfl
  exact absurd (ha.unique hb) (Nat.ne_of_lt hlt)

/-- References that are qualified in two ways stand for one name only by respelling. -/
theorem under_eq_iff {depth place : Nat} (ha : IsGreatest (scope.depths a) depth)
    (hb : IsGreatest (scope.depths b) place) (hne : a ≠ b) :
    scope.under a depth = scope.under b place ↔ scope.Respells a b ∨ scope.Respells b a := by
  constructor
  · intro h
    rcases Nat.lt_trichotomy depth place with hlt | rfl | hgt
    · exact .inl ⟨depth, place, hlt, ha, hb, (under_eq_under_iff hlt.le).mp h⟩
    · rw [under_eq_under_iff le_rfl] at h
      simp at h
      exact absurd h hne
    · exact .inr ⟨place, depth, hgt, hb, ha, (under_eq_under_iff hgt.le).mp h.symm⟩
  · intro h
    rcases h with ⟨outer, inner, hlt, ha', hb', heq⟩ | ⟨outer, inner, hlt, hb', ha', heq⟩
    · rw [ha.unique ha', hb.unique hb']
      exact (under_eq_under_iff hlt.le).mpr heq
    · rw [ha.unique ha', hb.unique hb']
      exact ((under_eq_under_iff hlt.le).mpr heq).symm

end Scope

/-! ## Tags -/

/-- The tags of a member are its places in the union, counted from one. -/
def Resolved.Union.HasTag (u : Resolved.Union) (member : TypeName) (tag : Nat) : Prop :=
  1 ≤ tag ∧ u.members[tag - 1]? = some member

/-- Members are distinct when each has one tag. -/
theorem Resolved.Union.nodup_iff_existsUnique_hasTag (u : Resolved.Union) :
    u.members.Nodup ↔ ∀ member ∈ u.members, ∃! tag, u.HasTag member tag := by
  constructor
  · intro hnodup member hmember
    obtain ⟨i, hi, hget⟩ := List.getElem_of_mem hmember
    refine ⟨i + 1, ⟨by omega, by simp [hi, hget]⟩, ?_⟩
    intro tag htag
    obtain ⟨hpos, hplace⟩ := htag
    obtain ⟨hlt, hsame⟩ := List.getElem?_eq_some_iff.mp hplace
    have hindex := hnodup.getElem_inj_iff.mp (hsame.trans hget.symm)
    omega
  · intro hunique
    refine List.nodup_iff_getElem?_ne_getElem?.mpr fun i j hlt hj hsame => ?_
    have hget := List.getElem?_eq_getElem hj
    obtain ⟨tag, _, honly⟩ := hunique _ (List.mem_of_getElem? hget)
    have hfirst := honly (i + 1) ⟨by omega, by simpa using hsame.trans hget⟩
    have hsecond := honly (j + 1) ⟨by omega, hget⟩
    omega

/-! ## Compiled unions -/

theorem SymbolTable.Built.nodup_members {file : SymbolTable} (h : file.Built) {name : String}
    {u : Symbol.Union} (hholds : file.Holds name (.union u)) : u.members.Nodup := by
  obtain ⟨schema, hbuild⟩ := h
  obtain ⟨_, hfrom⟩ := builtFrom_of_build hbuild
  obtain ⟨d, _, hmakes⟩ := (hfrom.holds name _).mp hholds
  cases hmakes with
  | union hsource =>
    obtain ⟨hwell, hmeans⟩ := Symbol.Union.ofSource_eq_ok_iff.mp hsource
    exact hmeans.members ▸ hwell.names

namespace Scope

variable {scope : Scope}

/-- The name that a text stands for, and the depth that decides it. -/
theorem exists_depth_of_resolve? (hbuilt : ∀ file ∈ scope.session.files.values, file.Built)
    (hfile : scope.file ∈ scope.session.files.values) {text : String} {name : TypeName}
    {t : Symbol.Compound} (h : scope.resolve? text = some (name, .table t)) :
    ∃ depth, IsGreatest (scope.depths (.ofText text)) depth ∧
      name = scope.under (.ofText text) depth := by
  have hprimitive : Primitive.ofName? text = none := by
    cases hp : Primitive.ofName? text with
    | none => rfl
    | some p => simp [resolve?, hp] at h
  rw [resolve?_eq_search? hprimitive, search?_eq_some_iff hbuilt hfile] at h
  obtain ⟨depth, hgreatest, hname, _⟩ := h
  exact ⟨depth, hgreatest, hname⟩

/-- Different texts stand for different names unless one respells another. -/
theorem nodup_map_iff_not_respells {texts : List String} {target : String → TypeName}
    (hnodup : texts.Nodup) (htarget : ∀ text ∈ texts, ∃ depth,
      IsGreatest (scope.depths (.ofText text)) depth ∧
        target text = scope.under (.ofText text) depth) :
    (texts.map target).Nodup ↔
      ∀ a ∈ texts, ∀ b ∈ texts, ¬ scope.Respells (.ofText a) (.ofText b) := by
  have hsame : ∀ a ∈ texts, ∀ b ∈ texts, a ≠ b → (target a = target b ↔
      scope.Respells (.ofText a) (.ofText b) ∨ scope.Respells (.ofText b) (.ofText a)) := by
    intro a ha b hb hne
    obtain ⟨depth, hdepth, hname⟩ := htarget a ha
    obtain ⟨place, hplace, hname'⟩ := htarget b hb
    rw [hname, hname']
    exact under_eq_iff hdepth hplace fun heq => hne (TypeName.ofText_inj.mp heq)
  rw [List.nodup_map_iff_inj_on hnodup]
  constructor
  · intro hinj a ha b hb hrespells
    have hne : a ≠ b := fun heq => hrespells.ne (heq ▸ rfl)
    exact hne (hinj a ha b hb ((hsame a ha b hb hne).mpr (.inl hrespells)))
  · intro hnone a ha b hb heq
    by_contra hne
    rcases (hsame a ha b hb hne).mp heq with hrespells | hrespells
    · exact hnone a ha b hb hrespells
    · exact hnone b hb a ha hrespells

end Scope

namespace Session

variable {session : Session} {settings : CompilerSettings} {compiled : Compiled}

/-- What the texts of a union stand for, as a function of the text. -/
theorem exists_target (hbuilt : ∀ file ∈ session.files.values, file.Built)
    (hverified : session.Verified) {file : SymbolTable} (hfile : file ∈ session.files.values)
    {name : String} {written : Symbol.Union} (hfind : file.find? name = some (.union written))
    {members : List TypeName} (hmembers : List.Forall₂ (fun text member => ∃ declared,
      Scope.resolve? ⟨session, file⟩ text = some (member, declared)) written.members members) :
    ∃ target : String → TypeName, members = written.members.map target ∧
      ∀ text ∈ written.members, ∃ depth,
        IsGreatest (Scope.depths ⟨session, file⟩ (.ofText text)) depth ∧
          target text = Scope.under ⟨session, file⟩ (.ofText text) depth := by
  refine ⟨fun text => ((Scope.resolve? ⟨session, file⟩ text).map (·.1)).getD ⟨[], text⟩, ?_, ?_⟩
  · rw [← List.forall₂_eq_eq_eq, List.forall₂_map_right_iff]
    refine hmembers.flip.imp fun member text hresolve => ?_
    obtain ⟨declared, hresolve⟩ := hresolve
    simp [hresolve]
  · intro text htext
    obtain ⟨target, t, hresolve⟩ := hverified.members file hfile name written hfind text htext
    obtain ⟨depth, hgreatest, rfl⟩ := Scope.exists_depth_of_resolve? hbuilt hfile hresolve
    exact ⟨depth, hgreatest, by simp [hresolve]⟩

/-- **Unions.** The members of a compiled union are what the texts of the declared one stand for,
in order, each under the longest prefix of the namespace that declares it. No text occurs twice, and
the members are distinct, each with one tag, exactly when no text respells another. -/
theorem compile_members_nodup_iff {texts : List (String × String)}
    (hregister : registerTexts {} texts = .ok session)
    (hcompile : session.compile settings = .ok compiled) {key : TypeName} {u : Resolved.Union}
    {layout : Layout} (hentry : compiled.get? key = some ⟨.union u, layout⟩) :
    ∃ path file written, session.file? path = some file ∧ file.scopePath = key.path ∧
      file.Holds key.name (.union written) ∧ written.members.Nodup ∧
      let scope : Scope := ⟨session, file⟩
      (∃ target : String → TypeName, u.members = written.members.map target ∧
        ∀ text ∈ written.members, ∃ depth, IsGreatest (scope.depths (.ofText text)) depth ∧
          target text = scope.under (.ofText text) depth) ∧
      (u.members.Nodup ↔ ∀ a ∈ written.members, ∀ b ∈ written.members,
        ¬ scope.Respells (.ofText a) (.ofText b)) ∧
      (u.members.Nodup ↔ ∀ member ∈ u.members, ∃! tag, u.HasTag member tag) := by
  have hbuilt := built_of_registerTexts hregister
  obtain ⟨declarations, h⟩ := compiles_of_compile hbuilt hcompile
  obtain ⟨file, hfile, declared, hscope, hfind, hmirrors⟩ := h.exists_source hentry
  obtain ⟨path, hpath⟩ := OrderedMap.mem_values_iff.mp hfile
  have hholds := SymbolTable.holds_of_find? hfind
  cases hmirrors with
  | @union written members hmembers =>
    have hnodup := (hbuilt file hfile).nodup_members hholds
    obtain ⟨target, rfl, htarget⟩ :=
      exists_target hbuilt h.resolves.verified hfile hfind hmembers
    exact ⟨path, file, written, hpath, hscope, hholds, hnodup, ⟨target, rfl, htarget⟩,
      Scope.nodup_map_iff_not_respells hnodup htarget,
      Resolved.Union.nodup_iff_existsUnique_hasTag _⟩

theorem exists_union_of_members {key : TypeName} {members : List TypeName}
    (h : ((session.compile settings).toOption.bind fun compiled =>
      (compiled.get? key).map fun entry =>
        (entry.declaration.kind, entry.declaration.references)) = some (.union, members)) :
    ∃ compiled u layout, session.compile settings = .ok compiled ∧
      compiled.get? key = some ⟨.union u, layout⟩ ∧ u.members = members := by
  obtain ⟨compiled, hcompiled, hfound⟩ := Option.bind_eq_some_iff.mp h
  obtain ⟨⟨declaration, layout⟩, hentry, heq⟩ := Option.map_eq_some_iff.mp hfound
  obtain ⟨hkind, hmembers⟩ := Prod.mk.inj heq
  cases declaration with
  | union u => exact ⟨compiled, u, layout, eq_ok_of_toOption hcompiled, hentry, hmembers⟩
  | enum e => cases hkind
  | struct s => cases hkind
  | table t => cases hkind

/-- A longer text, but it stands for a table further in. -/
def dryDockTexts : List (String × String) :=
  [("near", "namespace a.b; table T {} union U { T, b.T }"),
   ("deep", "namespace a.b.b; table T {}")]

def dryDockSession : Session :=
  ((registerTexts {} dryDockTexts).toOption).getD {}

theorem dryDock_members_nodup :
    registerTexts {} dryDockTexts = .ok dryDockSession ∧ ∃ compiled u layout,
      dryDockSession.compile {} = .ok compiled ∧
      compiled.get? ⟨["a", "b"], "U"⟩ = some ⟨.union u, layout⟩ ∧
      u.members = [⟨["a", "b"], "T"⟩, ⟨["a", "b", "b"], "T"⟩] ∧
      ∀ member ∈ u.members, ∃! tag, u.HasTag member tag := by
  have hregister : registerTexts {} dryDockTexts = .ok dryDockSession :=
    eq_ok_getD (by decide +kernel)
  obtain ⟨compiled, u, layout, hcompile, hentry, hmembers⟩ :
      ∃ compiled u layout, dryDockSession.compile {} = .ok compiled ∧
        compiled.get? ⟨["a", "b"], "U"⟩ = some ⟨.union u, layout⟩ ∧
          u.members = [⟨["a", "b"], "T"⟩, ⟨["a", "b", "b"], "T"⟩] :=
    exists_union_of_members (by decide +kernel)
  obtain ⟨_, _, _, _, _, _, _, _, _, htags⟩ :=
    compile_members_nodup_iff hregister hcompile hentry
  have hnodup : u.members.Nodup := hmembers ▸ by decide
  exact ⟨hregister, compiled, u, layout, hcompile, hentry, hmembers, htags.mp hnodup⟩

/-- One table under two texts. -/
def fleetTexts : List (String × String) :=
  [("fleet", "namespace sea; table Ship {} union Fleet { Ship, sea.Ship }")]

def fleetSession : Session :=
  ((registerTexts {} fleetTexts).toOption).getD {}

theorem fleet_member_twice :
    registerTexts {} fleetTexts = .ok fleetSession ∧ ∃ compiled u layout,
      fleetSession.compile {} = .ok compiled ∧
      compiled.get? ⟨["sea"], "Fleet"⟩ = some ⟨.union u, layout⟩ ∧ ¬ u.members.Nodup ∧
      u.HasTag ⟨["sea"], "Ship"⟩ 1 ∧ u.HasTag ⟨["sea"], "Ship"⟩ 2 := by
  have hregister : registerTexts {} fleetTexts = .ok fleetSession := eq_ok_getD (by decide +kernel)
  obtain ⟨compiled, u, layout, hcompile, hentry, hmembers⟩ :
      ∃ compiled u layout, fleetSession.compile {} = .ok compiled ∧
        compiled.get? ⟨["sea"], "Fleet"⟩ = some ⟨.union u, layout⟩ ∧
          u.members = [⟨["sea"], "Ship"⟩, ⟨["sea"], "Ship"⟩] :=
    exists_union_of_members (by decide +kernel)
  refine ⟨hregister, compiled, u, layout, hcompile, hentry, ?_, ?_, ?_⟩
  · rw [hmembers]
    decide
  · exact ⟨by decide, by rw [hmembers]; rfl⟩
  · exact ⟨by decide, by rw [hmembers]; rfl⟩

end Session

end WireSchema
