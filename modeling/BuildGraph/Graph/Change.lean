import BuildGraph.Graph.Basic
import BuildGraph.Order.Cycle
import BuildGraph.Variables.Value

/-!
# Changes of a graph

Every change looks first whether it may be made and then gives the new graph; a refused change
gives the cause and nothing else. Node ids, script identifiers, group names and variable names stay
distinct, edges join existing nodes, hard edges between enabled nodes stay free of cycles, and a
node belongs to at most one group.
-/

namespace BuildGraph

open BuildGraph.Text

/-- New values for the fields of a node. A field without one stays as it is. -/
structure NodeChange where
  id : Option String := none
  name : Option String := none
  kind : Option Kind := none
  config : Option Config := none
  group : Option (Option String) := none
  description : Option (Option String) := none
  enabled : Option Bool := none
  timeoutMinutes : Option (Option Int) := none
  condition : Option (Option Guard) := none
  trigger : Option (Option Trigger) := none
  deriving DecidableEq

/-- The step of a changed node. A new kind without settings has the settings of a new node. -/
def NodeChange.step (change : NodeChange) (current : Step) : Option Step :=
  match change.kind, change.config with
  | none, none => some current
  | some kind, none => if kind = current.kind then some current else some (.ofKind kind)
  | none, some config => Step.ofConfig? current.kind config
  | some kind, some config => Step.ofConfig? kind config

/-- The changed node, or the refusal of settings of another kind. -/
def NodeChange.apply (change : NodeChange) (n : Node) : Except GraphError Node :=
  let name := change.name.getD n.name
  match change.step n.step with
  | none =>
    let kind := change.kind.getD n.kind
    .error (.wrongConfig name kind (change.config.getD kind.defaultConfig).recordName)
  | some step => .ok { n with
      name, step
      group := change.group.getD n.group
      description := change.description.getD n.description
      enabled := change.enabled.getD n.enabled
      timeoutMinutes := change.timeoutMinutes.getD n.timeoutMinutes
      condition := change.condition.getD n.condition
      trigger := change.trigger.getD n.trigger }

namespace Graph

/-- Refuses a node whose script identifier another node has, the node of one id left out. -/
def requireIdentifierFree (g : Graph) (n : Node) (ignore : Option String) :
    Except GraphError Unit :=
  if g.nodes.any fun other => ignore != some other.id && other.identifier == n.identifier then
    .error (.duplicateTaskName n.name)
  else .ok ()

/-- Adds a node at the end. -/
def addNode (g : Graph) (n : Node) : Except GraphError Graph := do
  if g.hasNode n.id then throw (.nodeIdTaken n.id)
  if isBlankText n.name then throw (.invalidName .taskMissing)
  g.requireIdentifierFree n none
  return { g with nodes := g.nodes ++ [n] }

/-- Changes fields of a node. A node is not switched on if that closes a cycle. -/
def updateNode (g : Graph) (id : String) (change : NodeChange) : Except GraphError Graph := do
  if change.id.any (· ≠ id) then throw .nodeIdChanged
  let current ← g.getNode id
  let updated ← change.apply current
  if isBlankText updated.name then throw (.invalidName .taskMissing)
  g.requireIdentifierFree updated (some id)
  let graph := { g with nodes := g.nodes.map fun n => if n.id = id then updated else n }
  if updated.enabled && !current.enabled then
    match Order.findCycle graph.nodes graph.edges false with
    | some cycle => throw (.cycle .enabling cycle)
    | none => return graph
  else return graph

/-- Removes a node with its edges and its membership in a group. -/
def removeNode (g : Graph) (id : String) : Except GraphError Graph := do
  let _ ← g.getNode id
  return { g with
    nodes := g.nodes.filter fun n => decide (n.id ≠ id)
    edges := g.edges.filter fun e => decide (e.source ≠ id) && decide (e.target ≠ id)
    groups := g.groups.map fun group =>
      { group with members := group.members.filter fun m => decide (m ≠ id) } }

/-- Adds an edge at the end. -/
def addEdge (g : Graph) (source target : String) (relation : Relation) :
    Except GraphError Graph := do
  let _ ← g.getNode source
  let _ ← g.getNode target
  match Order.connectionFault g.nodes g.edges source target relation with
  | some .selfLoop => throw .selfLoop
  | some .duplicate => throw (.duplicateEdge source target relation.name)
  | some .cycle => throw (.cycle .connection [])
  | none => return { g with edges := g.edges ++ [⟨source, target, relation⟩] }

/-- Removes an edge. -/
def removeEdge (g : Graph) (source target : String) (relation : Relation) :
    Except GraphError Graph :=
  if ⟨source, target, relation⟩ ∈ g.edges then
    .ok { g with edges := g.edges.filter fun e => decide (e ≠ ⟨source, target, relation⟩) }
  else .error (.edgeMissing source target relation.name)

/-- Changes the relation of an edge. The edge is removed and the changed one is added. -/
def updateEdgeRelation (g : Graph) (source target : String) (relation new : Relation) :
    Except GraphError Graph := do
  (← g.removeEdge source target relation).addEdge source target new

/-- Refuses a name that a group may not have. -/
def requireGroupName (g : Graph) (name : String) (exclude : Option String) :
    Except GraphError Unit :=
  match groupNameFault name g.groups exclude with
  | none => .ok ()
  | some .taken => .error (.duplicateGroupName (trim name))
  | some (.name fault) => .error (.invalidName fault)

/-- Moves nodes into a group, in the given order, and out of all other groups. -/
def assignToGroup (g : Graph) (id : String) (nodeIds : List String) : Except GraphError Graph := do
  let _ ← g.getGroup id
  let moved := firsts nodeIds
  moved.forM fun nodeId => do let _ ← g.getNode nodeId
  return { g with groups := g.groups.map fun group =>
    let kept := group.members.filter fun m => decide (m ∉ moved)
    { group with members := if group.id = id then kept ++ moved else kept } }

/-- Adds a group at the end. Its members leave the groups they were in. -/
def addGroup (g : Graph) (group : Group) : Except GraphError Graph := do
  if g.groups.any fun other => other.id == group.id then throw (.groupIdTaken group.id)
  g.requireGroupName group.name none
  let added := { g with
    groups := g.groups ++ [{ group with name := trim group.name, members := [] }] }
  if group.members.isEmpty then return added
  else added.assignToGroup group.id group.members

/-- Puts a group in the place of every group of its id. -/
def replaceGroup (g : Graph) (group : Group) : Graph :=
  { g with groups := g.groups.map fun other => if other.id = group.id then group else other }

/-- Gives a group another name. -/
def renameGroup (g : Graph) (id name : String) : Except GraphError Graph := do
  let group ← g.getGroup id
  g.requireGroupName name (some id)
  return g.replaceGroup { group with name := trim name }

/-- Removes a group and keeps its members. -/
def removeGroup (g : Graph) (id : String) : Except GraphError Graph := do
  let _ ← g.getGroup id
  return { g with groups := g.groups.filter fun group => decide (group.id ≠ id) }

/-- Takes nodes out of a group. -/
def removeFromGroup (g : Graph) (id : String) (nodeIds : List String) :
    Except GraphError Graph := do
  let group ← g.getGroup id
  return g.replaceGroup { group with
    members := group.members.filter fun m => decide (m ∉ nodeIds) }

/-- Refuses a value that does not fit the type of a variable. -/
def requireValue (v : Variable) (value : String) : Except GraphError Unit :=
  match v.type.fault? value with
  | none => .ok ()
  | some fault => .error (.invalidValue v.name fault)

/-- Declares a variable at the end. -/
def addVariable (g : Graph) (v : Variable) : Except GraphError Graph := do
  if !isVariableName v.name then throw (.invalidName (.variableMalformed v.name))
  if g.vars.any fun other => other.name == v.name then throw (.duplicateVariable v.name)
  if g.vars.any fun other => other.id == v.id then throw (.variableIdTaken v.id)
  requireValue v v.defaultValue
  match v.value with
  | none => pure ()
  | some value => requireValue v value
  return { g with vars := g.vars ++ [v] }

/-- Puts a variable in the place of every variable of a name. -/
def replaceVariable (g : Graph) (name : String) (v : Variable) : Graph :=
  { g with vars := g.vars.map fun other => if other.name = name then v else other }

/-- Sets the value of a variable, or takes it away. -/
def updateVariableValue (g : Graph) (name : String) (value : Option String) :
    Except GraphError Graph := do
  let v ← g.getVariable name
  match value with
  | none => pure ()
  | some text => requireValue v text
  return g.replaceVariable name { v with value }

/-- Gives a variable another name. Texts that refer to it are left as they are. -/
def renameVariable (g : Graph) (name new : String) : Except GraphError Graph := do
  let v ← g.getVariable name
  if v.isSystem then throw (.systemVariable name "renamed")
  if new = name then return g
  if !isVariableName new then throw (.invalidName (.variableMalformed new))
  if g.vars.any fun other => other.name == new then throw (.duplicateVariable new)
  return g.replaceVariable name { v with name := new }

/-- Removes a variable. -/
def removeVariable (g : Graph) (name : String) : Except GraphError Graph := do
  let v ← g.getVariable name
  if v.isSystem then throw (.systemVariable name "deleted")
  return { g with vars := g.vars.filter fun other => decide (other.name ≠ name) }

end Graph

end BuildGraph
