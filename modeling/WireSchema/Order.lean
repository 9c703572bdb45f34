/-
WireSchema.Order — the order in which declarations are emitted.

Enums come first. The others follow in rounds: a round takes, in declaration order, every remaining
declaration that waits for none of the remaining ones. A round that takes nothing is a cycle.
-/
import WireSchema.Resolved

namespace WireSchema.Order

open WireSchema.Resolved (Declaration)

/-- A declaration that is not yet placed and what it waits for. -/
structure Waiting where
  name : TypeName
  waitsFor : List TypeName
  deriving DecidableEq

/-- Whether a declaration waits for nothing. -/
def Waiting.isReady (w : Waiting) : Bool :=
  w.waitsFor.isEmpty

/-- The declarations a round takes. -/
def ready (graph : List Waiting) : List TypeName :=
  (graph.filter Waiting.isReady).map (·.name)

/-- What remains after a round, no longer waiting for what the round took. -/
def remaining (graph : List Waiting) : List Waiting :=
  (graph.filter fun w => !w.isReady).map fun w =>
    { w with waitsFor := w.waitsFor.filter fun name => !(ready graph).contains name }

theorem length_remaining_lt {graph : List Waiting} (h : ready graph ≠ []) :
    (remaining graph).length < graph.length := by
  obtain ⟨name, hname⟩ := List.exists_mem_of_ne_nil _ h
  simp only [ready, List.mem_map, List.mem_filter] at hname
  obtain ⟨w, ⟨hw, hready⟩, _⟩ := hname
  simp only [remaining, List.length_map]
  exact List.length_filter_lt_length_iff_exists.mpr ⟨w, hw, by simp [hready]⟩

/-- The rounds over a graph, or the names that remain when a round takes nothing. -/
def rounds (graph : List Waiting) : Except (List TypeName) (List TypeName) :=
  if graph.isEmpty then .ok []
  else if _ : ready graph = [] then .error (graph.map (·.name))
  else
    match rounds (remaining graph) with
    | .error names => .error names
    | .ok order => .ok (ready graph ++ order)
termination_by graph.length
decreasing_by exact length_remaining_lt ‹_›

/-- What each declaration but the enums waits for: its dependencies among the declared names. -/
def graph (declarations : OrderedMap TypeName Declaration) : List Waiting :=
  (declarations.entries.filter fun entry => !entry.2.isEnum).map fun (name, d) =>
    ⟨name, d.dependencies.filter declarations.contains⟩

/-- The names of the enums, in order. -/
def enums (declarations : OrderedMap TypeName Declaration) : List TypeName :=
  (declarations.values.filter Declaration.isEnum).map Declaration.name

/-- The emission order of a session's declarations. -/
def establish (declarations : OrderedMap TypeName Declaration) : Except Error (List TypeName) :=
  match rounds (graph declarations) with
  | .error names => .error (.cycle names)
  | .ok order => .ok (enums declarations ++ order)

end WireSchema.Order
