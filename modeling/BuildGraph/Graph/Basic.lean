import BuildGraph.Graph.Error
import BuildGraph.Model.Node
import BuildGraph.Model.Variable
import BuildGraph.Order.Sequence
import BuildGraph.Text.LowerCase

/-!
# Graphs of tasks

A graph holds nodes, edges, groups and variables, each in the order in which they came. This module
holds the type and the questions one may ask of a graph; the changes are in
`BuildGraph.Graph.Change`.
-/

namespace BuildGraph

open BuildGraph.Text

/-- The tasks of a build with their relations, groups and variables. -/
structure Graph where
  nodes : List Node := []
  edges : List Edge := []
  groups : List Group := []
  vars : List Variable := []
  deriving DecidableEq

/-- How many members of a group are of each sort. -/
structure GroupStats where
  total : Nat := 0
  enabled : Nat := 0
  disabled : Nat := 0
  withConditions : Nat := 0
  withTriggers : Nat := 0
  deriving DecidableEq, Repr

namespace Graph

/-- The graph without anything. -/
def bare : Graph := {}

/-- The graph with nothing but the built-in variables. -/
def empty : Graph := { vars := systemVariables }

/-- The ids of the nodes. -/
def nodeIds (g : Graph) : List String := g.nodes.map Node.id

/-- Whether a node has the id. -/
def hasNode (g : Graph) (id : String) : Bool := g.nodes.any fun n => n.id == id

/-- The node of an id. -/
def node? (g : Graph) (id : String) : Option Node := g.nodes.find? fun n => n.id == id

/-- The node of an id, or the refusal that names it. -/
def getNode (g : Graph) (id : String) : Except GraphError Node :=
  match g.node? id with
  | some n => .ok n
  | none => .error (.unknownNode id)

/-- The node whose name or script identifier is given. -/
def nodeNamed? (g : Graph) (name : String) : Option Node :=
  g.nodes.find? fun n => n.name == name || n.identifier == name

/-- The edges into a node, of one relation or of all. -/
def incoming (g : Graph) (id : String) (relation : Option Relation) : List Edge :=
  g.edges.filter fun e => e.target == id && relation.all (· == e.relation)

/-- The edges out of a node, of one relation or of all. -/
def outgoing (g : Graph) (id : String) (relation : Option Relation) : List Edge :=
  g.edges.filter fun e => e.source == id && relation.all (· == e.relation)

/-- The group of an id, or the refusal that names it. -/
def getGroup (g : Graph) (id : String) : Except GraphError Group :=
  match g.groups.find? fun group => group.id == id with
  | some group => .ok group
  | none => .error (.unknownGroup id)

/-- The group that a node belongs to. -/
def groupOf? (g : Graph) (id : String) : Option Group :=
  g.groups.find? fun group => group.members.contains id

/-- Counts of the members of a group. -/
def groupStats (g : Graph) (id : String) : Except GraphError GroupStats := do
  let group ← g.getGroup id
  let members := g.nodes.filter fun n => group.members.contains n.id
  let enabled := (members.filter Node.enabled).length
  return {
    total := members.length
    enabled
    disabled := members.length - enabled
    withConditions := (members.filter fun n => n.condition.any (!·.conditions.isEmpty)).length
    withTriggers := (members.filter fun n => n.trigger.any (· ≠ .manual)).length }

/-- The variable of a name, or the refusal that names it. -/
def getVariable (g : Graph) (name : String) : Except GraphError Variable :=
  match g.vars.find? fun v => v.name == name with
  | some v => .ok v
  | none => .error (.unknownVariable name)

/-- The variables that are not built in. -/
def userVariables (g : Graph) : List Variable := g.vars.filter (!·.isSystem)

/-- The order of a run of all enabled nodes, or of targets and all they depend on. -/
def executionOrder (g : Graph) (targets : Option (List String)) : List String :=
  Order.executionOrder g.nodes g.edges targets

end Graph

/-- What is wrong with the name of a group. -/
inductive GroupNameFault where
  | name (fault : NameFault)
  | taken
  deriving DecidableEq, Repr

/-- The words for a fault of a group's name. -/
def GroupNameFault.message : GroupNameFault → String
  | name fault => fault.message
  | taken => "A group with this name already exists"

/-- What is wrong with a name for a group, beside the given groups without the excluded one. Blanks
around a name and differences in case do not count. -/
def groupNameFault (name : String) (groups : List Group) (exclude : Option String) :
    Option GroupNameFault :=
  let trimmed := trim name
  if trimmed = "" then some (.name .groupMissing)
  else if maxGroupNameLength < trimmed.length then some (.name .groupTooLong)
  else if groups.any fun g => exclude != some g.id && lower g.name == lower trimmed then some .taken
  else none

end BuildGraph
