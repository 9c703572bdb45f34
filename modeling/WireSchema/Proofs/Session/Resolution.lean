/-
WireSchema.Proofs.Session.Resolution — the longest prefix that declares a name qualifies it.

A reference is looked for under every prefix of the namespace of its file. `Scope.depths` collects
the lengths of the prefixes under which some registered file declares it, and the greatest of them
decides (`Scope.search?_eq_some_iff`). `Scope.Supplies` says whose declaration is taken there. The
file's own declarations need no rule of their own (`Scope.search?_of_local?`).

Main statement: `Session.resolve?_longest_prefix`.
-/
import WireSchema.Proofs.Session.Listed
import WireSchema.Proofs.TypeName
import WireSchema.Scope
import Mathlib.Order.Bounds.Basic

namespace WireSchema

open WireSchema.Outcome

/-! ## What a reference can stand for -/

/-- A file has the namespace of a qualified name and declares its local name. -/
def SymbolTable.Supplies (file : SymbolTable) (name : TypeName) (declared : Symbol.Declared) :
    Prop :=
  file.scopePath = name.path ∧ file.Holds name.name declared

/-- The earliest registered file that has a qualified name declares it so. -/
def Session.Supplies (session : Session) (name : TypeName) (declared : Symbol.Declared) : Prop :=
  ∃ before file after, session.files.values = before ++ file :: after ∧
    file.Supplies name declared ∧ ∀ earlier ∈ before, ∀ other, ¬ earlier.Supplies name other

namespace Scope

/-- What the file itself has comes before what others have. -/
def Supplies (scope : Scope) (name : TypeName) (declared : Symbol.Declared) : Prop :=
  scope.file.Supplies name declared ∨
    (∀ other, ¬ scope.file.Supplies name other) ∧ scope.session.Supplies name declared

/-- A reference under the prefix of some length of the file's namespace. -/
def under (scope : Scope) (reference : TypeName) (depth : Nat) : TypeName :=
  ⟨scope.file.scopePath.take depth ++ reference.path, reference.name⟩

/-- The lengths of the prefixes under which a registered file declares a reference. -/
def depths (scope : Scope) (reference : TypeName) : Set Nat :=
  {depth | depth ≤ scope.file.scopePath.length ∧ ∃ file ∈ scope.session.files.values,
    ∃ declared, file.Supplies (scope.under reference depth) declared}

/-- The first of the candidates that has a declaration. -/
def search? (scope : Scope) (name : String) : Option (TypeName × Symbol.Declared) :=
  (scope.candidates name).findSome? fun candidate =>
    (scope.lookup? candidate).map fun declared => (candidate, declared)

end Scope

/-! ## Candidates -/

/-- A search from the greatest number down finds the greatest number that has a result. -/
theorem findSome?_reverse_range_eq_some_iff {α : Type} {f : Nat → Option α} {n : Nat} {a : α} :
    (List.range (n + 1)).reverse.findSome? f = some a ↔
      ∃ k, IsGreatest {k | k ≤ n ∧ ∃ b, f k = some b} k ∧ f k = some a := by
  induction n with
  | zero =>
    constructor
    · intro h
      have hzero : f 0 = some a := by simpa using h
      exact ⟨0, ⟨⟨Nat.le_refl 0, a, hzero⟩, fun k hk => hk.1⟩, hzero⟩
    · intro h
      obtain ⟨k, ⟨⟨hk, _⟩, _⟩, hfound⟩ := h
      obtain rfl : k = 0 := Nat.le_zero.mp hk
      simpa using hfound
  | succ n ih =>
    rw [List.range_succ, List.reverse_append, List.reverse_singleton, List.singleton_append]
    cases hlast : f (n + 1) with
    | some b =>
      rw [List.findSome?_cons_of_isSome (by simp [hlast]), hlast]
      constructor
      · intro h
        exact ⟨n + 1, ⟨⟨Nat.le_refl _, b, hlast⟩, fun k hk => hk.1⟩, hlast.trans h⟩
      · intro h
        obtain ⟨k, hgreatest, hfound⟩ := h
        have hk : k = n + 1 :=
          Nat.le_antisymm hgreatest.1.1 (hgreatest.2 ⟨Nat.le_refl _, b, hlast⟩)
        rw [← hfound, hk, hlast]
    | none =>
      -- nothing at the top, so both sides are about the numbers below
      have hbelow : {k | k ≤ n + 1 ∧ ∃ b, f k = some b} = {k | k ≤ n ∧ ∃ b, f k = some b} := by
        ext k
        refine and_congr_left fun hk => ⟨fun hle => ?_, fun hle => by omega⟩
        obtain ⟨b, hb⟩ := hk
        have hne : k ≠ n + 1 := fun heq => by simp [heq, hlast] at hb
        omega
      rw [List.findSome?_cons_of_isNone (by simp [hlast]), hbelow]
      exact ih

namespace Scope

variable {scope : Scope} {name : String}

theorem candidates_eq (scope : Scope) (name : String) : scope.candidates name =
    (List.range (scope.file.scopePath.length + 1)).reverse.map
      (scope.under (TypeName.ofText name)) := by
  rw [candidates, outwards, List.map_map]
  rfl

theorem search?_eq (scope : Scope) (name : String) : scope.search? name =
    (List.range (scope.file.scopePath.length + 1)).reverse.findSome? fun depth =>
      (scope.lookup? (scope.under (TypeName.ofText name) depth)).map fun declared =>
        (scope.under (TypeName.ofText name) depth, declared) := by
  rw [search?, candidates_eq, List.findSome?_map]
  rfl

/-- A declaration of the file itself under a name without points is the first candidate's. -/
theorem search?_of_local? {declared : Symbol.Declared} (h : scope.local? name = some declared) :
    scope.search? name = some (⟨scope.file.scopePath, name⟩, declared) := by
  unfold local? at h
  split at h
  · cases h
  rename_i hplain
  have hreference : TypeName.ofText name = ⟨[], name⟩ :=
    TypeName.ofText_of_plain (by simpa using hplain)
  have hunder : scope.under (TypeName.ofText name) scope.file.scopePath.length =
      ⟨scope.file.scopePath, name⟩ := by
    simp [under, hreference]
  have hlookup : scope.lookup? ⟨scope.file.scopePath, name⟩ = some declared := by
    simp [lookup?, h]
  rw [search?_eq, List.range_succ, List.reverse_append, List.reverse_singleton,
    List.singleton_append, List.findSome?_cons_of_isSome] <;> simp [hunder, hlookup]

/-- For a name that is no primitive's, the candidates alone decide. -/
theorem resolve?_eq_search? (h : Primitive.ofName? name = none) :
    scope.resolve? name = scope.search? name := by
  simp only [resolve?, h]
  cases hlocal : scope.local? name with
  | none => rfl
  | some declared => exact (search?_of_local? hlocal).symm

/-! ## Declarations -/

section

variable (hbuilt : ∀ file ∈ scope.session.files.values, file.Built)
  (hfile : scope.file ∈ scope.session.files.values) {candidate : TypeName}

include hbuilt

theorem ite_find?_eq_some_iff {file : SymbolTable} (hmem : file ∈ scope.session.files.values)
    {declared : Symbol.Declared} :
    (if file.scopePath == candidate.path then file.find? candidate.name else none) =
      some declared ↔ file.Supplies candidate declared := by
  rw [Option.ite_none_right_eq_some, beq_iff_eq, (hbuilt file hmem).find?_eq_some_iff]
  rfl

theorem ite_find?_eq_none_iff {file : SymbolTable} (hmem : file ∈ scope.session.files.values) :
    (if file.scopePath == candidate.path then file.find? candidate.name else none) = none ↔
      ∀ other, ¬ file.Supplies candidate other := by
  simp only [Option.eq_none_iff_forall_ne_some, ne_eq, ite_find?_eq_some_iff hbuilt hmem]

/-- The search through the registered files ends at the earliest that has the name. -/
theorem findSome?_eq_some_iff_supplies {declared : Symbol.Declared} :
    (scope.session.files.values.findSome? fun file =>
      if file.scopePath == candidate.path then file.find? candidate.name else none) =
        some declared ↔ scope.session.Supplies candidate declared := by
  rw [List.findSome?_eq_some_iff, Session.Supplies]
  refine exists_congr fun before => exists_congr fun file => exists_congr fun after =>
    and_congr_right fun hsplit => ?_
  have hmem : ∀ other ∈ before ++ file :: after, other ∈ scope.session.files.values :=
    fun other hother => hsplit ▸ hother
  refine and_congr (ite_find?_eq_some_iff hbuilt (hmem _ (by simp))) ?_
  refine forall_congr' fun earlier => forall_congr' fun hearlier => ?_
  exact ite_find?_eq_none_iff hbuilt (hmem _ (List.mem_append_left _ hearlier))

include hfile

/-- A candidate is looked up as the file and the session supply it. -/
theorem lookup?_eq_some_iff_supplies {declared : Symbol.Declared} :
    scope.lookup? candidate = some declared ↔ scope.Supplies candidate declared := by
  rw [lookup?, Option.or_eq_some_iff, ite_find?_eq_some_iff hbuilt hfile,
    ite_find?_eq_none_iff hbuilt hfile, findSome?_eq_some_iff_supplies hbuilt]
  rfl

/-- A candidate has a declaration when some registered file has one. -/
theorem exists_lookup?_iff : (∃ declared, scope.lookup? candidate = some declared) ↔
    ∃ file ∈ scope.session.files.values, ∃ declared, file.Supplies candidate declared := by
  constructor
  · intro h
    obtain ⟨declared, hlookup⟩ := h
    rcases (lookup?_eq_some_iff_supplies hbuilt hfile).mp hlookup with hown | ⟨_, hother⟩
    · exact ⟨scope.file, hfile, declared, hown⟩
    · obtain ⟨before, file, after, hsplit, hsupplies, _⟩ := hother
      exact ⟨file, hsplit ▸ by simp, declared, hsupplies⟩
  · intro h
    obtain ⟨file, hmem, declared, hsupplies⟩ := h
    rw [← Option.ne_none_iff_exists', lookup?, ne_eq, Option.or_eq_none_iff,
      List.findSome?_eq_none_iff]
    intro hnone
    exact (ite_find?_eq_none_iff hbuilt hmem).mp (hnone.2 file hmem) declared hsupplies

/-- The greatest depth decides what a search finds. -/
theorem search?_eq_some_iff {qualified : TypeName} {declared : Symbol.Declared} :
    scope.search? name = some (qualified, declared) ↔ ∃ depth,
      IsGreatest (scope.depths (TypeName.ofText name)) depth ∧
        qualified = scope.under (TypeName.ofText name) depth ∧
          scope.Supplies qualified declared := by
  have hdepths : scope.depths (TypeName.ofText name) =
      {depth | depth ≤ scope.file.scopePath.length ∧ ∃ found,
        (scope.lookup? (scope.under (TypeName.ofText name) depth)).map
          (fun declared => (scope.under (TypeName.ofText name) depth, declared)) = some found} := by
    ext depth
    refine and_congr_right fun _ => ?_
    rw [← exists_lookup?_iff hbuilt hfile]
    simp [Option.map_eq_some_iff]
  rw [search?_eq, findSome?_reverse_range_eq_some_iff, hdepths]
  refine exists_congr fun depth => and_congr_right fun _ => ?_
  rw [Option.map_eq_some_iff]
  constructor
  · intro h
    obtain ⟨found, hlookup, heq⟩ := h
    cases heq
    exact ⟨rfl, (lookup?_eq_some_iff_supplies hbuilt hfile).mp hlookup⟩
  · intro h
    obtain ⟨rfl, hsupplies⟩ := h
    exact ⟨declared, (lookup?_eq_some_iff_supplies hbuilt hfile).mpr hsupplies, rfl⟩

theorem search?_eq_none_iff :
    scope.search? name = none ↔ scope.depths (TypeName.ofText name) = ∅ := by
  rw [search?_eq, List.findSome?_eq_none_iff, Set.eq_empty_iff_forall_notMem]
  refine forall_congr' fun depth => ?_
  rw [List.mem_reverse, List.mem_range, Nat.lt_succ_iff, Option.map_eq_none_iff,
    Option.eq_none_iff_forall_ne_some, depths, Set.mem_ofPred_eq, not_and,
    ← exists_lookup?_iff hbuilt hfile, not_exists]

end

end Scope

namespace Session

/-- **Longest prefix.** Where a name that is no primitive's is written in a file of a session,
whether the session keeps its rules or not, it spells one reference. It stands for something if some
registered file declares the reference under a prefix of the file's namespace, and the longest such
prefix qualifies it. The declaration is the file's own if it has one there, else that of the
earliest registered file. The candidates alone give this answer, and no outer declaration hides an
inner one. -/
theorem resolve?_longest_prefix {session : Session}
    (hbuilt : ∀ file ∈ session.files.values, file.Built) {path : String} {file : SymbolTable}
    (hfile : session.file? path = some file) {name : String}
    (hname : Primitive.ofName? name = none) :
    ∃ reference : TypeName, (∀ other : TypeName, other.Spells name ↔ other = reference) ∧
      let scope : Scope := ⟨session, file⟩
      (∀ qualified declared, scope.resolve? name = some (qualified, declared) ↔
        ∃ depth, IsGreatest (scope.depths reference) depth ∧
          qualified = scope.under reference depth ∧ scope.Supplies qualified declared) ∧
      (scope.resolve? name = none ↔ scope.depths reference = ∅) ∧
      scope.resolve? name = scope.search? name ∧
      ∀ inner ∈ scope.depths reference, ∀ outer < inner, ∀ declared,
        scope.resolve? name ≠ some (scope.under reference outer, declared) := by
  refine ⟨TypeName.ofText name, fun other => TypeName.spells_iff, ?_⟩
  intro scope
  have hmem : scope.file ∈ scope.session.files.values := OrderedMap.mem_values_iff.mpr ⟨path, hfile⟩
  have hfound : ∀ qualified declared, scope.resolve? name = some (qualified, declared) ↔
      ∃ depth, IsGreatest (scope.depths (TypeName.ofText name)) depth ∧
        qualified = scope.under (TypeName.ofText name) depth ∧
          scope.Supplies qualified declared := by
    intro qualified declared
    rw [Scope.resolve?_eq_search? hname, Scope.search?_eq_some_iff hbuilt hmem]
  refine ⟨hfound, ?_, Scope.resolve?_eq_search? hname, ?_⟩
  · rw [Scope.resolve?_eq_search? hname, Scope.search?_eq_none_iff hbuilt hmem]
  · intro inner hinner outer hlt declared houter
    obtain ⟨depth, hgreatest, hsame, _⟩ := (hfound _ _).mp houter
    have hle : inner ≤ depth := hgreatest.2 hinner
    have hdepth : depth ≤ scope.file.scopePath.length := hgreatest.1.1
    -- prefixes of different lengths qualify differently
    have hlength := congrArg (fun q : TypeName => q.path.length) hsame
    simp only [Scope.under, List.length_append, List.length_take] at hlength
    omega

/-- A partly qualified name that two namespaces have, below none of which it is written. -/
def pierTexts : List (String × String) :=
  [("pier", "namespace a.b.c; table Pier { t: b.T; }"),
   ("far", "namespace b; struct T { x: int; }"),
   ("near", "namespace a.b; table T {}")]

def pierSession : Session :=
  ((registerTexts {} pierTexts).toOption).getD {}

theorem pier_resolves_near :
    registerTexts {} pierTexts = .ok pierSession ∧ Primitive.ofName? "b.T" = none ∧
    ∃ file declared, pierSession.file? "pier" = some file ∧
      Scope.resolve? ⟨pierSession, file⟩ "b.T" = some (⟨["a", "b"], "T"⟩, declared) ∧
      declared.kind = .table ∧ IsGreatest (Scope.depths ⟨pierSession, file⟩ ⟨["b"], "T"⟩) 1 := by
  obtain ⟨hregisters, hresolves⟩ : (registerTexts {} pierTexts).toOption.isSome = true ∧
      ((pierSession.file? "pier").bind fun file =>
        (Scope.resolve? ⟨pierSession, file⟩ "b.T").map fun found =>
          (found.1, found.2.kind, file.scopePath)) =
            some (⟨["a", "b"], "T"⟩, Kind.table, ["a", "b", "c"]) := by decide +kernel
  obtain ⟨file, hfile, hfound⟩ := Option.bind_eq_some_iff.mp hresolves
  obtain ⟨⟨qualified, declared⟩, hresolve, heq⟩ := Option.map_eq_some_iff.mp hfound
  simp only [Prod.mk.injEq] at heq
  obtain ⟨rfl, hkind, hpath⟩ := heq
  have hregister : registerTexts {} pierTexts = .ok pierSession := eq_ok_getD hregisters
  have hname : Primitive.ofName? "b.T" = none := by decide
  obtain ⟨reference, hspells, hlongest, _⟩ :=
    resolve?_longest_prefix (built_of_registerTexts hregister) hfile hname
  have hreference : (⟨["b"], "T"⟩ : TypeName) = reference :=
    (hspells _).mp ⟨by decide, by decide⟩
  obtain ⟨depth, hgreatest, hunder, _⟩ := (hlongest _ _).mp hresolve
  have hdepth : depth = 1 := by
    have hlength := congrArg (fun q : TypeName => q.path.length) hunder
    simp only [Scope.under, hpath, ← hreference, List.length_append, List.length_take,
      List.length_cons, List.length_nil] at hlength
    omega
  subst hreference hdepth
  exact ⟨hregister, hname, file, declared, hfile, hresolve, hkind, hgreatest⟩

end Session

end WireSchema
