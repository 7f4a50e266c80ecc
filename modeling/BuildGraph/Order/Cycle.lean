import BuildGraph.Order.Basic

/-!
# Cycles of hard dependencies

A depth-first search follows the successors of each considered id in turn, with the path from the
start of the search. The search ends at the first id that is met again on its own path and gives
the part of the path from there on.
-/

namespace BuildGraph.Order

/-- The part of a path from an id on, closed by the id again. The path holds the last id first. -/
def closeCycle (path : List String) (id : String) : List String :=
  id :: (path.takeWhile fun p => decide (p ≠ id)).reverse ++ [id]

/-- Visits an id and all it leads to that was not visited before. Answers the visited ids, or the
first cycle as an error. The first argument bounds the length of a path. -/
def visit (next : String → List String) :
    Nat → (path visited : List String) → String → Except (List String) (List String)
  | 0, _, visited, _ => .ok visited
  | depth + 1, path, visited, id =>
    (next id).foldlM (fun visited n =>
      if n ∈ id :: path then .error (closeCycle (id :: path) n)
      else if n ∈ visited then .ok visited
      else visit next depth (id :: path) visited n) (id :: visited)

/-- The first cycle that a search from the ids in turn meets. -/
def cycleFrom (next : String → List String) (ids : List String) : Option (List String) :=
  match ids.foldlM (fun visited id =>
      if id ∈ visited then .ok visited else visit next ids.length [] visited id) [] with
  | .error cycle => some cycle
  | .ok _ => none

/-- A cycle of hard dependencies between the considered nodes: its ids in order, the first one
again at the end. -/
def findCycle (nodes : List Node) (edges : List Edge) (disabledToo : Bool) :
    Option (List String) :=
  let ids := consideredIds nodes disabledToo
  cycleFrom (successors edges ids) ids

/-- Whether a further hard edge would close a cycle. An edge from a node to itself always does. -/
def wouldCreateCycle (nodes : List Node) (edges : List Edge) (source target : String) : Bool :=
  source == target || (findCycle nodes (edges ++ [⟨source, target, .dependsOn⟩]) false).isSome

/-- Why two nodes cannot be connected. -/
inductive ConnectionFault where
  | selfLoop
  | duplicate
  | cycle
  deriving DecidableEq, Repr

/-- The words for a refused connection. -/
def ConnectionFault.message : ConnectionFault → String
  | selfLoop => "Cannot connect a task to itself"
  | duplicate => "This dependency already exists"
  | cycle => "This would create a circular dependency"

/-- What speaks against a further edge: that it joins a node to itself, that it is present, or, for
a hard one, that it closes a cycle. -/
def connectionFault (nodes : List Node) (edges : List Edge) (source target : String)
    (relation : Relation) : Option ConnectionFault :=
  if source = target then some .selfLoop
  else if ⟨source, target, relation⟩ ∈ edges then some .duplicate
  else if relation.isHard && wouldCreateCycle nodes edges source target then some .cycle
  else none

end BuildGraph.Order
