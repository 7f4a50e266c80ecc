import BuildGraph.Document.Encode
import BuildGraph.Order.Cycle
import BuildGraph.Variables.Reference

/-!
# Checks before a script is written

A graph can be written in any case, but a script with two tasks of one name, with a cycle or with a
task that lacks what it needs is of no use, and a reference to an undeclared variable is suspicious.
-/

namespace BuildGraph

/-- Why the script of a graph would be of no use. -/
inductive ExportFault where
  | duplicateName (name : String)
  | cycle
  | node (name : String) (fault : NodeFault)
  deriving DecidableEq, Repr

/-- The words for a fault. -/
def ExportFault.message : ExportFault → String
  | duplicateName name => "Duplicate task name: \"" ++ name ++ "\""
  | cycle => "Circular dependency detected in task graph"
  | node name fault => "Task \"" ++ name ++ "\": " ++ fault.message

/-- A reference to a variable that is not declared. -/
structure UndeclaredReference where
  task : String
  name : String
  deriving DecidableEq, Repr

/-- The words for an undeclared reference. -/
def UndeclaredReference.message (r : UndeclaredReference) : String :=
  "Task \"" ++ r.task ++ "\": undefined variable " ++ referenceTo r.name

/-- What speaks against writing a graph. -/
structure ExportCheck where
  faults : List ExportFault
  undeclared : List UndeclaredReference
  deriving DecidableEq, Repr

/-- Whether nothing forbids writing. -/
def ExportCheck.isValid (c : ExportCheck) : Bool := c.faults.isEmpty

/-- The nodes whose identifier an earlier node has. -/
def repeatedIdentifiers : List String → List Node → List Node
  | _, [] => []
  | seen, n :: rest =>
    if seen.contains n.identifier then n :: repeatedIdentifiers seen rest
    else repeatedIdentifiers (n.identifier :: seen) rest

/-- Checks a graph before it is written. Cycles through disabled tasks count. -/
def Graph.exportCheck (g : Graph) : ExportCheck where
  faults :=
    (repeatedIdentifiers [] g.nodes).map (fun n => .duplicateName n.name) ++
    (if (Order.findCycle g.nodes g.edges true).isSome then [.cycle] else []) ++
    g.nodes.flatMap fun n =>
      (n.faults.filter fun f => f.field != "name").map (.node n.name)
  undeclared := g.nodes.flatMap fun n =>
    (n.step.config.toDocument.undeclared g.vars).map fun name => ⟨n.name, name⟩

end BuildGraph
