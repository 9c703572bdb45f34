/-
WireSchema.Proofs.Order.Cycle — an order is refused exactly for a cycle.

What a failed run leaves depends on something it leaves (`rounds_eq_error`); as the names are
finitely many, following the dependencies ends in a cycle (`reachesCycle_of_successors`). Conversely
a name from which a cycle can be reached starts chains of every length, so no round takes it
(`isDeep_of_reachesCycle`). Both together say which names a failure lists.

Main statement: `establish_error_iff_cycle`.
-/
import Mathlib.Data.Set.Finite.List
import WireSchema.Proofs.Order.Rounds
import WireSchema.Proofs.Outcome

namespace WireSchema.Order

open WireSchema.Resolved (Declaration)
open Relation (ReflTransGen TransGen)

variable {declarations : OrderedMap TypeName Declaration}

/-- Some cycle of dependencies can be reached from a name. -/
def ReachesCycle (declarations : OrderedMap TypeName Declaration) (name : TypeName) : Prop :=
  ∃ c, ReflTransGen (DependsOn declarations) name c ∧ TransGen (DependsOn declarations) c c

/-! ## Following successors -/

/-- Where every element of a finite list has a successor in the list, each leads to a cycle. -/
theorem reachesCycle_of_successors {α : Type} {r : α → α → Prop} {l : List α}
    (h : ∀ a ∈ l, ∃ b ∈ l, r a b) {a : α} (ha : a ∈ l) :
    ∃ c, ReflTransGen r a c ∧ TransGen r c c := by
  by_contra hnone
  -- without a cycle the part that can be reached is well-founded, so it has a last element
  let Reached := {b // b ∈ l ∧ ReflTransGen r a b}
  have : Finite Reached := l.finite_toSet.subset fun b (hb : b ∈ l ∧ ReflTransGen r a b) => hb.1
  have : IsTrans Reached fun x y => TransGen r y.1 x.1 := ⟨fun _ _ _ hxy hyz => hyz.trans hxy⟩
  have : Std.Irrefl fun x y : Reached => TransGen r y.1 x.1 :=
    ⟨fun x hx => hnone ⟨x.1, x.2.2, hx⟩⟩
  have hwf := Finite.wellFounded_of_trans_of_irrefl fun x y : Reached => TransGen r y.1 x.1
  obtain ⟨last, _, hlast⟩ := hwf.has_min Set.univ ⟨⟨a, ha, .refl⟩, trivial⟩
  obtain ⟨next, hnext, hstep⟩ := h last.1 last.2.1
  exact hlast ⟨next, hnext, last.2.2.tail hstep⟩ trivial (.single hstep)

/-- A name leads to a cycle through one of its dependencies. -/
theorem ReachesCycle.exists_dependsOn {name : TypeName} (h : ReachesCycle declarations name) :
    ∃ dep, DependsOn declarations name dep ∧ ReachesCycle declarations dep := by
  obtain ⟨c, hpath, hcycle⟩ := h
  rcases ReflTransGen.cases_head hpath with rfl | ⟨dep, hdep, hrest⟩
  · obtain ⟨dep, hdep, hback⟩ := TransGen.head'_iff.mp hcycle
    exact ⟨dep, hdep, name, hback, hcycle⟩
  · exact ⟨dep, hdep, c, hrest, hcycle⟩

/-- A name that leads to a cycle starts chains of every length. -/
theorem isDeep_of_reachesCycle (k : Nat) {name : TypeName}
    (h : ReachesCycle declarations name) : isDeep (graph declarations) k name = true := by
  induction k generalizing name with
  | zero => rfl
  | succ k ih =>
    obtain ⟨dep, hdep, hcycle⟩ := h.exists_dependsOn
    exact isDeep_graph_succ_iff.mpr ⟨dep, hdep, ih hcycle⟩

theorem ReachesCycle.mem_composites {name : TypeName} (h : ReachesCycle declarations name) :
    name ∈ composites declarations := by
  obtain ⟨dep, hdep, _⟩ := h.exists_dependsOn
  obtain ⟨d, hd, _⟩ := id hdep
  exact mem_composites_iff.mpr ⟨d, hd, hdep.isEnum_eq_false hd⟩

/-! ## The end of the run -/

/-- Every round but the last takes a name, so there are at most as many as names. -/
theorem exists_ready_eq_nil (graph : List Waiting) :
    ∃ k ≤ graph.length, ready (remaining^[k] graph) = [] := by
  induction hlen : graph.length using Nat.strongRecOn generalizing graph with
  | ind n ih =>
    by_cases hready : ready graph = []
    · exact ⟨0, Nat.zero_le _, hready⟩
    · have hlt := length_remaining_lt hready
      rw [hlen] at hlt
      obtain ⟨k, hk, hstop⟩ := ih _ hlt (remaining graph) rfl
      exact ⟨k + 1, by omega, hstop⟩

/-- What a failed run leaves are the names that lead to a cycle. -/
theorem mem_left_iff (hfree : EnumFree declarations) {left : List TypeName}
    (h : rounds (graph declarations) = .error left) {name : TypeName} :
    name ∈ left ↔ ReachesCycle declarations name := by
  obtain ⟨depth, rfl, _, hdeeper⟩ := rounds_eq_error (closed_graph hfree) h
  constructor
  · intro hname
    refine reachesCycle_of_successors (fun a ha => ?_) hname
    obtain ⟨dep, hdep, hdeep⟩ := isDeep_graph_succ_iff.mp (hdeeper a ha)
    obtain ⟨w, hw, _, hwaits⟩ := exists_waitsFor_iff.mpr hdep
    exact ⟨dep, List.mem_filter.mpr ⟨(closed_graph hfree).waits w hw dep hwaits, hdeep⟩, hdep⟩
  · intro hcycle
    rw [List.mem_filter, names_graph]
    exact ⟨hcycle.mem_composites, isDeep_of_reachesCycle depth hcycle⟩

/-- A run fails exactly when there is a cycle. -/
theorem rounds_error_iff (hfree : EnumFree declarations) :
    (∃ left, rounds (graph declarations) = .error left) ↔
      ∃ name, TransGen (DependsOn declarations) name name := by
  constructor
  · rintro ⟨left, h⟩
    obtain ⟨_, _, hleft, _⟩ := rounds_eq_error (closed_graph hfree) h
    obtain ⟨name, hname⟩ := List.exists_mem_of_ne_nil left hleft
    obtain ⟨c, _, hcycle⟩ := (mem_left_iff hfree h).mp hname
    exact ⟨c, hcycle⟩
  · rintro ⟨name, hcycle⟩
    cases hrun : rounds (graph declarations) with
    | error left => exact ⟨left, rfl⟩
    | ok order =>
      -- an empty last stage has no room for a name that is deep to any length
      have hreaches : ReachesCycle declarations name := ⟨name, .refl, hcycle⟩
      obtain ⟨count, hlast, _⟩ := rounds_eq_ok (closed_graph hfree) hrun
      have hshallow := hlast name (names_graph declarations ▸ hreaches.mem_composites)
      rw [isDeep_of_reachesCycle count hreaches] at hshallow
      cases hshallow

open Classical in
theorem left_eq_filter (hfree : EnumFree declarations) {left : List TypeName}
    (h : rounds (graph declarations) = .error left) :
    left = (composites declarations).filter (ReachesCycle declarations ·) := by
  obtain ⟨depth, hleft, _, _⟩ := rounds_eq_error (closed_graph hfree) h
  rw [hleft, names_graph]
  refine List.filter_congr fun name hname => ?_
  have hmem : name ∈ left ↔ ReachesCycle declarations name := mem_left_iff hfree h
  rw [hleft, List.mem_filter, names_graph] at hmem
  rw [Bool.eq_iff_iff, decide_eq_true_eq, ← hmem]
  exact ⟨fun hdeep => ⟨hname, hdeep⟩, And.right⟩

theorem establish_eq_error_iff {error : Error} :
    establish declarations = .error error ↔
      ∃ left, rounds (graph declarations) = .error left ∧ error = .cycle left := by
  rw [establish]
  cases rounds (graph declarations) <;> simp [eq_comm]

open Classical in
/-- **Cycles.** The rounds end; the order is refused exactly when the dependencies have a cycle, and
then the names listed are, in order, the unions, structs and tables that lead to one. -/
theorem establish_error_iff_cycle (hfree : EnumFree declarations) :
    (∃ k ≤ (composites declarations).length, ready (remaining^[k] (graph declarations)) = []) ∧
    ((∃ error, establish declarations = .error error) ↔
      ∃ name, TransGen (DependsOn declarations) name name) ∧
    ∀ error, establish declarations = .error error →
      ∃ listed, listed = (composites declarations).filter (ReachesCycle declarations ·) ∧
        error = .cycle listed ∧
        error.message = "Structural error: " ++ ("cyclic dependency between types: " ++
          ", ".intercalate (listed.map TypeName.text)) := by
  refine ⟨?_, ?_, ?_⟩
  · have hend := exists_ready_eq_nil (graph declarations)
    rwa [← names_graph, names, List.length_map]
  · rw [← rounds_error_iff hfree]
    constructor
    · rintro ⟨error, h⟩
      obtain ⟨left, hleft, _⟩ := establish_eq_error_iff.mp h
      exact ⟨left, hleft⟩
    · rintro ⟨left, hleft⟩
      exact ⟨.cycle left, establish_eq_error_iff.mpr ⟨left, hleft, rfl⟩⟩
  · intro error h
    obtain ⟨left, hleft, rfl⟩ := establish_eq_error_iff.mp h
    exact ⟨left, left_eq_filter hfree hleft, rfl, rfl⟩

/-- Two tables that hold each other, one that holds one of them, and one apart. -/
def ring : OrderedMap TypeName Declaration where
  entries :=
    [(⟨[], "User"⟩, .table ⟨⟨[], "User"⟩,
       [⟨"left", ⟨⟨[], "Left"⟩, .table⟩, true, none, []⟩], [], none⟩),
     (⟨[], "Left"⟩, .table ⟨⟨[], "Left"⟩,
       [⟨"right", ⟨⟨[], "Right"⟩, .table⟩, false, none, [.deprecated]⟩], [], none⟩),
     (⟨[], "Apart"⟩, .table ⟨⟨[], "Apart"⟩, [], [], none⟩),
     (⟨[], "Right"⟩, .table ⟨⟨[], "Right"⟩,
       [⟨"left", ⟨⟨[], "Left"⟩, .table⟩, false, none, []⟩], [], none⟩)]
  nodup := by decide

open Classical in
theorem establish_ring :
    establish ring = .error (.cycle [⟨[], "User"⟩, ⟨[], "Left"⟩, ⟨[], "Right"⟩]) ∧
    (∃ name, TransGen (DependsOn ring) name name) ∧
    [⟨[], "User"⟩, ⟨[], "Left"⟩, ⟨[], "Right"⟩] =
      (composites ring).filter (ReachesCycle ring ·) := by
  have hrun : establish ring =
      .error (.cycle [⟨[], "User"⟩, ⟨[], "Left"⟩, ⟨[], "Right"⟩]) :=
    Outcome.eq_error_of_match (by decide +kernel)
  obtain ⟨_, hcycle, hlisted⟩ := establish_error_iff_cycle (by decide : EnumFree ring)
  obtain ⟨listed, hfilter, herror, _⟩ := hlisted _ hrun
  exact ⟨hrun, hcycle.mp ⟨_, hrun⟩, (Error.cycle.inj herror).trans hfilter⟩

end WireSchema.Order
