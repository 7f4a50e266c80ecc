import BuildGraph.Order.Basic

/-!
# The order of a run

The nodes of a run are the enabled ones or, for given targets, the targets and all they depend on.
A node is ready when all it depends on is done; ready nodes are taken first come, first served.
Nodes that never become ready, because a cycle lies before them, follow at the end.
-/

namespace BuildGraph.Order

/-- Everything that can be reached from the waiting ids, in the order of discovery. The first
argument bounds the number of ids taken from the queue. -/
def discover (next : String → List String) :
    Nat → (waiting found : List String) → List String
  | 0, _, found => found
  | _ + 1, [], found => found
  | count + 1, id :: waiting, found =>
    let fresh := firsts ((next id).filter fun n => decide (n ∉ found))
    discover next count (waiting ++ fresh) (found ++ fresh)

/-- The considered ones of the targets and everything they depend on. -/
def closure (edges : List Edge) (ids targets : List String) : List String :=
  let start := firsts (targets.filter fun t => decide (t ∈ ids))
  discover (predecessors edges ids) ids.length start start

/-- The enabled ids among the targets and everything they depend on through enabled nodes. -/
def requiredClosure (nodes : List Node) (edges : List Edge) (targets : List String) :
    List String :=
  closure edges (consideredIds nodes false) targets

/-- Takes the first ready id, and adds those that became ready by it at the end. The first
argument bounds the number of ids taken. -/
def takeReady (next before : String → List String) :
    Nat → (ready done : List String) → List String
  | 0, _, done => done
  | _ + 1, [], done => done
  | count + 1, id :: ready, done =>
    let done := done ++ [id]
    let fresh := (next id).filter fun n => (before n).all fun p => decide (p ∈ done)
    takeReady next before count (ready ++ fresh) done

/-- The given ids, each after all those it depends on as far as no cycle prevents it. -/
def sequence (next before : String → List String) (ids : List String) : List String :=
  let done := takeReady next before ids.length (ids.filter fun id => (before id).isEmpty) []
  done ++ ids.filter fun id => decide (id ∉ done)

/-- The order of a run of all enabled nodes, or of the targets and all they depend on. -/
def executionOrder (nodes : List Node) (edges : List Edge) (targets : Option (List String)) :
    List String :=
  let enabled := consideredIds nodes false
  let ids := match targets with
    | none => enabled
    | some ts =>
      let required := closure edges enabled ts
      enabled.filter fun id => decide (id ∈ required)
  sequence (successors edges ids) (predecessors edges ids) ids

end BuildGraph.Order
