import BuildGraph.Order.Sequence

/-!
# Walks along edges

What lies upstream or downstream of a node, and all simple paths from one node to another. These
look at the edges alone, not at the nodes.
-/

namespace BuildGraph.Order

/-- The edges that are followed: the hard ones or all. -/
def followed (edges : List Edge) (hardOnly : Bool) : List Edge :=
  edges.filter fun e => e.relation.isHard || !hardOnly

/-- The ids that must run before an id, the nearest first. -/
def upstream (edges : List Edge) (id : String) (hardOnly : Bool) : List String :=
  let es := followed edges hardOnly
  (discover (fun t => (es.filter fun e => e.target == t).map Edge.source)
    (es.length + 1) [id] [id]).drop 1

/-- The ids that run after an id, the nearest first. -/
def downstream (edges : List Edge) (id : String) (hardOnly : Bool) : List String :=
  let es := followed edges hardOnly
  (discover (fun s => (es.filter fun e => e.source == s).map Edge.target)
    (es.length + 1) [id] [id]).drop 1

/-- All simple continuations of a path to the target. The path holds the last id first, and the
first argument bounds the length of a path. -/
def extendPath (next : String → List String) (target : String) :
    Nat → (path : List String) → String → List (List String)
  | 0, _, _ => []
  | depth + 1, path, id =>
    if id = target then [(id :: path).reverse]
    else ((next id).filter fun n => decide (n ∉ id :: path)).flatMap
      (extendPath next target depth (id :: path))

/-- All simple paths from one id to another along edges of any relation. -/
def allPaths (edges : List Edge) (source target : String) : List (List String) :=
  extendPath (fun s => firsts ((edges.filter fun e => e.source == s).map Edge.target)) target
    (edges.length + 1) [] source

end BuildGraph.Order
