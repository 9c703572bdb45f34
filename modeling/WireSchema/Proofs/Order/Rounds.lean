/-
WireSchema.Proofs.Order.Rounds — what is left of a graph after each round.

A name is deep to `k` when a chain of `k` dependencies starts at it (`isDeep`). `k` rounds leave
exactly the names that are deep to `k`, each still waiting for those of its dependencies that are
(`stage`), and the next round takes those that are not deep to `k + 1` (`layer`). This is the
invariant of the loop, and it holds with and without cycles:

* `remaining_stage` — one round leads from a stage to the next;
* `rounds_eq_ok`, `rounds_eq_error` — what the whole run returns, in terms of depth;
* `isDeep_graph_succ_iff` — on the graph of declarations, depth follows `DependsOn`.
-/
import Mathlib.Data.List.Nodup
import WireSchema.Order

namespace WireSchema.Order

/-- The names of a graph, in order. -/
def names (graph : List Waiting) : List TypeName :=
  graph.map (·.name)

/-- No name occurs twice, and every name something waits for occurs. -/
structure Closed (graph : List Waiting) : Prop where
  nodup : (names graph).Nodup
  waits : ∀ w ∈ graph, ∀ name ∈ w.waitsFor, name ∈ names graph

/-- Whether a chain of so many dependencies starts at a name. -/
def isDeep (graph : List Waiting) : Nat → TypeName → Bool
  | 0, _ => true
  | k + 1, name => graph.any fun w => w.name == name && w.waitsFor.any (isDeep graph k)

/-- What is left of a graph after `k` rounds. -/
def stage (graph : List Waiting) (k : Nat) : List Waiting :=
  (graph.filter fun w => isDeep graph k w.name).map fun w =>
    { w with waitsFor := w.waitsFor.filter (isDeep graph k) }

/-- The names that the round after `k` rounds takes. -/
def layer (graph : List Waiting) (k : Nat) : List TypeName :=
  (names graph).filter fun name => isDeep graph k name && !isDeep graph (k + 1) name

/-! ## Depth -/

theorem isDeep_succ_iff {graph : List Waiting} {k : Nat} {name : TypeName} :
    isDeep graph (k + 1) name = true ↔
      ∃ w ∈ graph, w.name = name ∧ ∃ dep ∈ w.waitsFor, isDeep graph k dep = true := by
  simp [isDeep]

/-- A longer chain holds a shorter one. -/
theorem isDeep_of_succ {graph : List Waiting} {k : Nat} {name : TypeName}
    (h : isDeep graph (k + 1) name = true) : isDeep graph k name = true := by
  induction k generalizing name with
  | zero => rfl
  | succ k ih =>
    obtain ⟨w, hw, hname, dep, hdep, hdeep⟩ := isDeep_succ_iff.mp h
    exact isDeep_succ_iff.mpr ⟨w, hw, hname, dep, hdep, ih hdeep⟩

theorem isDeep_of_le {graph : List Waiting} {j k : Nat} {name : TypeName} (hle : j ≤ k)
    (h : isDeep graph k name = true) : isDeep graph j name = true := by
  induction hle with
  | refl => exact h
  | step _ ih => exact ih (isDeep_of_succ h)

/-- Names are distinct, so a name's depth is that of what it waits for. -/
theorem isDeep_name {graph : List Waiting} (hc : Closed graph) {w : Waiting} (hw : w ∈ graph)
    (k : Nat) : isDeep graph (k + 1) w.name = w.waitsFor.any (isDeep graph k) := by
  rw [Bool.eq_iff_iff, isDeep_succ_iff, List.any_eq_true]
  constructor
  · rintro ⟨v, hv, hname, hdeep⟩
    have hvw : v = w := List.inj_on_of_nodup_map hc.nodup hv hw hname
    exact hvw ▸ hdeep
  · intro hdeep
    exact ⟨w, hw, rfl, hdeep⟩

/-! ## One round -/

theorem stage_zero (graph : List Waiting) : stage graph 0 = graph := by
  simp only [stage, isDeep, List.filter_true, List.map_id']

theorem names_stage (graph : List Waiting) (k : Nat) :
    names (stage graph k) = (names graph).filter (isDeep graph k) := by
  simp [names, stage, List.map_map, List.filter_map, Function.comp_def]

/-- At a stage those are ready that wait for nothing deep. -/
theorem isReady_stage {graph : List Waiting} (hc : Closed graph) {w : Waiting} (hw : w ∈ graph)
    (k : Nat) :
    Waiting.isReady { w with waitsFor := w.waitsFor.filter (isDeep graph k) } =
      !isDeep graph (k + 1) w.name := by
  rw [isDeep_name hc hw, Waiting.isReady, Bool.eq_iff_iff]
  simp

theorem ready_stage {graph : List Waiting} (hc : Closed graph) (k : Nat) :
    ready (stage graph k) = layer graph k := by
  rw [ready, stage, layer, names, List.filter_map, List.map_map, List.filter_filter,
    List.filter_map]
  refine congrArg _ (List.filter_congr fun w hw => ?_)
  simp only [Function.comp_apply]
  rw [isReady_stage hc hw, Bool.and_comm]

/-- **Step of the loop**: a round leads from a stage to the next. -/
theorem remaining_stage {graph : List Waiting} (hc : Closed graph) (k : Nat) :
    remaining (stage graph k) = stage graph (k + 1) := by
  rw [remaining, ready_stage hc, stage, stage, List.filter_map, List.map_map, List.filter_filter]
  have hfilter : ∀ w ∈ graph,
      (((fun w : Waiting => !w.isReady) ∘ fun w : Waiting =>
        { w with waitsFor := w.waitsFor.filter (isDeep graph k) }) w &&
          isDeep graph k w.name) = isDeep graph (k + 1) w.name := by
    intro w hw
    simp only [Function.comp_apply]
    rw [isReady_stage hc hw, Bool.not_not]
    cases hdeep : isDeep graph (k + 1) w.name with
    | false => rfl
    | true => rw [isDeep_of_succ hdeep]; rfl
  rw [List.filter_congr hfilter]
  apply List.map_congr_left
  intro w hw
  have hmem : w ∈ graph := (List.mem_filter.mp hw).1
  simp only [Function.comp_apply, List.filter_filter, Waiting.mk.injEq, true_and]
  apply List.filter_congr
  intro dep hdep
  -- what a stage waits for is left at that stage, so only the layer's names go
  have hname := hc.waits w hmem dep hdep
  cases hdeep : isDeep graph (k + 1) dep with
  | false => cases hk : isDeep graph k dep <;> simp [layer, hname, hdeep, hk]
  | true => simp [layer, hdeep, isDeep_of_succ hdeep]

/-! ## The whole run -/

theorem stage_isEmpty_iff {graph : List Waiting} {k : Nat} :
    stage graph k = [] ↔ ∀ name ∈ names graph, isDeep graph k name = false := by
  simp [stage, names]

/-- The run from a stage on: it takes the following layers up to an empty stage, or stops at a
stage from which nothing can be taken. -/
theorem rounds_stage {graph : List Waiting} (hc : Closed graph) (k : Nat) :
    (∃ count, stage graph (k + count) = [] ∧
      rounds (stage graph k) = .ok ((List.range' k count).flatMap (layer graph))) ∨
    ∃ j, stage graph j ≠ [] ∧ layer graph j = [] ∧
      rounds (stage graph k) = .error ((names graph).filter (isDeep graph j)) := by
  -- each round shortens the stage, which is what `rounds` recurses on
  induction hlen : (stage graph k).length using Nat.strongRecOn generalizing k with
  | ind n ih =>
    by_cases hempty : stage graph k = []
    · refine .inl ⟨0, hempty, ?_⟩
      rw [rounds, hempty]
      rfl
    · have hnonempty : (stage graph k).isEmpty = false := by simpa using hempty
      by_cases hready : layer graph k = []
      · refine .inr ⟨k, hempty, hready, ?_⟩
        rw [rounds, hnonempty, dif_pos (by rw [ready_stage hc, hready]), ← names_stage]
        rfl
      · have hready' : ready (stage graph k) ≠ [] := by rwa [ready_stage hc]
        have hlt := length_remaining_lt hready'
        rw [remaining_stage hc, hlen] at hlt
        rcases ih _ hlt (k + 1) rfl with ⟨count, hlast, hrun⟩ | ⟨j, hleft, hstuck, hrun⟩
        · refine .inl ⟨count + 1, by rwa [Nat.add_right_comm, Nat.add_assoc] at hlast, ?_⟩
          rw [rounds, hnonempty, dif_neg hready', remaining_stage hc, hrun, ready_stage hc]
          rfl
        · refine .inr ⟨j, hleft, hstuck, ?_⟩
          rw [rounds, hnonempty, dif_neg hready', remaining_stage hc, hrun]
          rfl

/-- A run that succeeds takes layer after layer until every name is taken. -/
theorem rounds_eq_ok {graph : List Waiting} (hc : Closed graph) {order : List TypeName}
    (h : rounds graph = .ok order) :
    ∃ count, (∀ name ∈ names graph, isDeep graph count name = false) ∧
      order = (List.range count).flatMap (layer graph) := by
  have hrun := rounds_stage hc 0
  rw [stage_zero, h] at hrun
  rcases hrun with ⟨count, hlast, horder⟩ | ⟨_, _, _, herror⟩
  · rw [Nat.zero_add] at hlast
    refine ⟨count, stage_isEmpty_iff.mp hlast, ?_⟩
    rw [List.range_eq_range']
    exact Except.ok.inj horder
  · cases herror

/-- A run that fails leaves names of some depth, all of which are one deeper. -/
theorem rounds_eq_error {graph : List Waiting} (hc : Closed graph) {left : List TypeName}
    (h : rounds graph = .error left) :
    ∃ depth, left = (names graph).filter (isDeep graph depth) ∧ left ≠ [] ∧
      ∀ name ∈ left, isDeep graph (depth + 1) name = true := by
  have hrun := rounds_stage hc 0
  rw [stage_zero, h] at hrun
  rcases hrun with ⟨_, _, hok⟩ | ⟨depth, hleft, hstuck, herror⟩
  · cases hok
  · obtain rfl := Except.error.inj herror
    refine ⟨depth, rfl, ?_, ?_⟩
    · rw [← names_stage, names, Ne, List.map_eq_nil_iff]
      exact hleft
    · intro name hname
      obtain ⟨hmem, hdeep⟩ := List.mem_filter.mp hname
      by_contra hnot
      have hlayer : name ∈ layer graph depth := by
        simp [layer, hmem, hdeep, eq_false_of_ne_true hnot]
      rw [hstuck] at hlayer
      cases hlayer

/-- A round splits the names into those it takes and those that remain. -/
theorem ready_append_remaining_perm (graph : List Waiting) :
    (ready graph ++ names (remaining graph)).Perm (names graph) := by
  have hremaining : names (remaining graph) = names (graph.filter fun w => !w.isReady) := by
    simp [names, remaining, List.map_map, Function.comp_def]
  rw [hremaining, ready, names, ← List.map_append]
  exact (List.filter_append_perm _ _).map _

/-- A run that succeeds takes every name once, whatever the names wait for. -/
theorem perm_names_of_rounds {graph : List Waiting} {order : List TypeName}
    (h : rounds graph = .ok order) : order.Perm (names graph) := by
  fun_induction rounds graph generalizing order with
  | case1 graph hempty =>
    cases h
    simp [names, List.isEmpty_iff.mp hempty]
  | case2 => cases h
  | case3 => cases h
  | case4 graph hempty hready taken htaken ih =>
    cases h
    exact ((ih htaken).append_left _).trans (ready_append_remaining_perm graph)

/-! ## The graph of declarations -/

open WireSchema.Resolved (Declaration)

/-- A declaration refers to a declared union, struct or table. -/
def DependsOn (declarations : OrderedMap TypeName Declaration) (name dep : TypeName) : Prop :=
  ∃ d, declarations.get? name = some d ∧ dep ∈ d.dependencies ∧ dep ∈ declarations.keys

/-- No dependency names an enum. -/
def EnumFree (declarations : OrderedMap TypeName Declaration) : Prop :=
  ∀ entry ∈ declarations.entries, ∀ dep ∈ entry.2.dependencies,
    ∀ d ∈ declarations.get? dep, d.isEnum = false

instance (declarations : OrderedMap TypeName Declaration) : Decidable (EnumFree declarations) :=
  inferInstanceAs (Decidable (∀ entry ∈ declarations.entries, ∀ dep ∈ entry.2.dependencies,
    ∀ d ∈ declarations.get? dep, d.isEnum = false))

/-- The names of the unions, structs and tables, in order. -/
def composites (declarations : OrderedMap TypeName Declaration) : List TypeName :=
  (declarations.entries.filter fun entry => !entry.2.isEnum).map (·.1)

variable {declarations : OrderedMap TypeName Declaration}

theorem mem_composites_iff {name : TypeName} :
    name ∈ composites declarations ↔
      ∃ d, declarations.get? name = some d ∧ d.isEnum = false := by
  simp only [composites, List.mem_map, List.mem_filter, OrderedMap.get?_eq_some_iff]
  constructor
  · rintro ⟨⟨name, d⟩, ⟨hmem, henum⟩, rfl⟩
    exact ⟨d, hmem, by simpa using henum⟩
  · rintro ⟨d, hmem, henum⟩
    exact ⟨(name, d), ⟨hmem, by simpa using henum⟩, rfl⟩

theorem names_graph (declarations : OrderedMap TypeName Declaration) :
    names (graph declarations) = composites declarations := by
  simp [names, graph, composites, List.map_map, Function.comp_def]

/-- Enums refer to nothing. -/
theorem DependsOn.isEnum_eq_false {name dep : TypeName} {d : Declaration}
    (h : DependsOn declarations name dep) (hd : declarations.get? name = some d) :
    d.isEnum = false := by
  obtain ⟨d', hd', hdep, _⟩ := h
  obtain rfl : d = d' := Option.some.inj (hd.symm.trans hd')
  cases d with
  | enum e => cases hdep
  | union u => rfl
  | struct s => rfl
  | table t => rfl

/-- What waits for what in the graph is what depends on what. -/
theorem exists_waitsFor_iff {name dep : TypeName} :
    (∃ w ∈ graph declarations, w.name = name ∧ dep ∈ w.waitsFor) ↔
      DependsOn declarations name dep := by
  constructor
  · rintro ⟨w, hw, rfl, hdep⟩
    simp only [graph, List.mem_map, List.mem_filter] at hw
    obtain ⟨⟨name, d⟩, ⟨hmem, _⟩, rfl⟩ := hw
    simp only [List.mem_filter, OrderedMap.contains_iff] at hdep
    exact ⟨d, OrderedMap.get?_eq_some_iff.mpr hmem, hdep⟩
  · intro h
    obtain ⟨d, hd, hdep, hkey⟩ := h
    have henum := DependsOn.isEnum_eq_false ⟨d, hd, hdep, hkey⟩ hd
    refine ⟨⟨name, d.dependencies.filter declarations.contains⟩, ?_, rfl, ?_⟩
    · simp only [graph, List.mem_map, List.mem_filter]
      exact ⟨(name, d), ⟨OrderedMap.get?_eq_some_iff.mp hd, by simp [henum]⟩, rfl⟩
    · simp only [List.mem_filter, OrderedMap.contains_iff]
      exact ⟨hdep, hkey⟩

theorem isDeep_graph_succ_iff {k : Nat} {name : TypeName} :
    isDeep (graph declarations) (k + 1) name = true ↔
      ∃ dep, DependsOn declarations name dep ∧ isDeep (graph declarations) k dep = true := by
  rw [isDeep_succ_iff]
  constructor
  · rintro ⟨w, hw, hname, dep, hdep, hdeep⟩
    exact ⟨dep, exists_waitsFor_iff.mp ⟨w, hw, hname, hdep⟩, hdeep⟩
  · rintro ⟨dep, hdep, hdeep⟩
    obtain ⟨w, hw, hname, hwaits⟩ := exists_waitsFor_iff.mpr hdep
    exact ⟨w, hw, hname, dep, hwaits, hdeep⟩

/-- Without dependencies on enums the graph waits only for its own names. -/
theorem closed_graph (h : EnumFree declarations) : Closed (graph declarations) where
  nodup := by
    rw [names_graph]
    exact (List.filter_sublist.map Prod.fst).nodup declarations.nodup
  waits := by
    intro w hw dep hdep
    obtain ⟨owner, howner, hdep, hkey⟩ := exists_waitsFor_iff.mp ⟨w, hw, rfl, hdep⟩
    obtain ⟨d, hd⟩ := OrderedMap.mem_keys_iff.mp hkey
    rw [names_graph, mem_composites_iff]
    exact ⟨d, hd, h _ (OrderedMap.get?_eq_some_iff.mp howner) dep hdep d hd⟩

end WireSchema.Order
