import BuildGraph.Model.Node

/-!
# The hard dependencies of a graph

Ordering and the search for cycles look at one part of a graph only: the `dependsOn` edges between
the considered nodes, which are the enabled ones or all of them. This module gives the considered
ids, in the order of the nodes, and the successors and predecessors of an id.
-/

namespace BuildGraph

/-- The elements of a list in the order in which each first occurs. -/
def firsts {α : Type} [DecidableEq α] : List α → List α
  | [] => []
  | a :: rest => a :: (firsts rest).filter fun b => decide (b ≠ a)

@[simp]
theorem mem_firsts {α : Type} [DecidableEq α] {a : α} {l : List α} : a ∈ firsts l ↔ a ∈ l := by
  induction l with
  | nil => simp [firsts]
  | cons b rest ih =>
    by_cases h : a = b <;> simp [firsts, ih, h]

theorem nodup_firsts {α : Type} [DecidableEq α] (l : List α) : (firsts l).Nodup := by
  induction l with
  | nil => simp [firsts]
  | cons b rest ih =>
    simp only [firsts, List.nodup_cons, List.mem_filter]
    exact ⟨by simp, ih.filter _⟩

namespace Order

/-- The ids of the considered nodes, each once. -/
def consideredIds (nodes : List Node) (disabledToo : Bool) : List String :=
  firsts ((nodes.filter fun n => disabledToo || n.enabled).map Node.id)

/-- The considered ids that depend directly on an id, in the order of the edges. -/
def successors (edges : List Edge) (ids : List String) (id : String) : List String :=
  firsts ((edges.filter fun e =>
    e.source == id && e.relation.isHard && ids.contains e.source && ids.contains e.target).map
      Edge.target)

/-- The considered ids on which an id depends directly, in the order of the ids. -/
def predecessors (edges : List Edge) (ids : List String) (id : String) : List String :=
  ids.filter fun p => (successors edges ids p).contains id

end Order

end BuildGraph
