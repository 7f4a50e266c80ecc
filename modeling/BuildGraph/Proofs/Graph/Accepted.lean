import Mathlib
import BuildGraph.Graph.Change

/-!
# Accepted changes

A `GraphChange` is any of the fifteen changes of a graph with its arguments. For each of them this
module says once what it takes to be accepted and what the changed graph is; later proofs use these
statements and not the definitions. `Graph.Reachable` are the graphs that any sequence of changes
makes of the empty one, where a refused change leaves the graph as it is.
-/

namespace BuildGraph

open BuildGraph.Text

/-- A change of a graph with its arguments. -/
inductive GraphChange where
  | addNode (n : Node)
  | updateNode (id : String) (change : NodeChange)
  | removeNode (id : String)
  | addEdge (source target : String) (relation : Relation)
  | removeEdge (source target : String) (relation : Relation)
  | updateEdgeRelation (source target : String) (relation new : Relation)
  | addGroup (group : Group)
  | renameGroup (id name : String)
  | removeGroup (id : String)
  | assignToGroup (id : String) (nodeIds : List String)
  | removeFromGroup (id : String) (nodeIds : List String)
  | addVariable (v : Variable)
  | updateVariableValue (name : String) (value : Option String)
  | renameVariable (name new : String)
  | removeVariable (name : String)

/-- Makes a change, or refuses it. -/
def GraphChange.apply (g : Graph) : GraphChange → Except GraphError Graph
  | addNode n => g.addNode n
  | updateNode id change => g.updateNode id change
  | removeNode id => g.removeNode id
  | addEdge source target relation => g.addEdge source target relation
  | removeEdge source target relation => g.removeEdge source target relation
  | updateEdgeRelation source target relation new =>
      g.updateEdgeRelation source target relation new
  | addGroup group => g.addGroup group
  | renameGroup id name => g.renameGroup id name
  | removeGroup id => g.removeGroup id
  | assignToGroup id nodeIds => g.assignToGroup id nodeIds
  | removeFromGroup id nodeIds => g.removeFromGroup id nodeIds
  | addVariable v => g.addVariable v
  | updateVariableValue name value => g.updateVariableValue name value
  | renameVariable name new => g.renameVariable name new
  | removeVariable name => g.removeVariable name

section Steps

variable {ε α β : Type}

/-- Two steps are passed when both are. -/
theorem bind_eq_ok_iff {x : Except ε α} {f : α → Except ε β} {b : β} :
    (x >>= f) = .ok b ↔ ∃ a, x = .ok a ∧ f a = .ok b := by
  cases x <;> simp [bind, Except.bind]

/-- A refusal is passed when its condition fails. -/
theorem refusal_eq_ok_iff {c : Prop} [Decidable c] {e : ε} {f : α → Except ε β} {x : Except ε β}
    {b : β} : (if c then throw e >>= f else x) = .ok b ↔ ¬ c ∧ x = .ok b := by
  split <;> simp [*, throw, throwThe, MonadExceptOf.throw, bind, Except.bind]

/-- A step for each element of a list is passed when all of them are, one after another. -/
theorem mapM_eq_ok_iff {step : α → Except ε β} {as : List α} {bs : List β} :
    as.mapM step = .ok bs ↔ List.Forall₂ (fun a b => step a = .ok b) as bs := by
  induction as generalizing bs with
  | nil => simp [pure, Except.pure, eq_comm]
  | cons a as ih =>
      simp only [List.mapM_cons, bind_eq_ok_iff, List.forall₂_cons_left_iff, ih, pure, Except.pure,
        Except.ok.injEq]
      constructor
      · rintro ⟨b, hstep, bs, hsteps, rfl⟩
        exact ⟨b, bs, hstep, hsteps, rfl⟩
      · rintro ⟨b, bs, hstep, hsteps, rfl⟩
        exact ⟨b, hstep, bs, hsteps, rfl⟩

/-- Where the steps of all elements are passed, the step of each element is. -/
theorem exists_of_mapM_eq_ok {step : α → Except ε β} {as : List α} {bs : List β} {a : α}
    (h : as.mapM step = .ok bs) (ha : a ∈ as) : ∃ b ∈ bs, step a = .ok b := by
  rw [mapM_eq_ok_iff] at h
  induction h with
  | nil => cases ha
  | cons hstep _ ih =>
      rcases List.mem_cons.1 ha with rfl | ha
      · exact ⟨_, List.mem_cons_self, hstep⟩
      · obtain ⟨b, hb, hstep⟩ := ih ha
        exact ⟨b, List.mem_cons_of_mem _ hb, hstep⟩

/-- A refusal comes from the step of one element. -/
theorem exists_of_mapM_eq_error {step : α → Except ε β} {as : List α} {e : ε}
    (h : as.mapM step = .error e) : ∃ a ∈ as, step a = .error e := by
  induction as with
  | nil => cases h
  | cons a as ih =>
      rw [List.mapM_cons] at h
      cases hstep : step a with
      | error _ =>
          rw [hstep] at h
          cases h
          exact ⟨a, List.mem_cons_self, hstep⟩
      | ok b =>
          cases hsteps : as.mapM step with
          | error _ =>
              rw [hstep, hsteps] at h
              cases h
              obtain ⟨refused, hmem, hrefused⟩ := ih hsteps
              exact ⟨refused, List.mem_cons_of_mem _ hmem, hrefused⟩
          | ok bs =>
              rw [hstep, hsteps] at h
              cases h

end Steps

/-- A changed node keeps its id. -/
theorem NodeChange.apply_eq_ok {change : NodeChange} {n updated : Node}
    (h : change.apply n = .ok updated) : updated.id = n.id := by
  simp only [NodeChange.apply] at h
  split at h
  · cases h
  · cases h
    rfl

namespace Graph

/-- The graph after a change; a refused change leaves it as it is. -/
def after (g : Graph) (change : GraphChange) : Graph :=
  match change.apply g with
  | .ok g' => g'
  | .error _ => g

/-- The graph is what some changes make of the empty one. -/
def Reachable (g : Graph) : Prop :=
  ∃ changes : List GraphChange, g = changes.foldl after empty

/-- What holds of the empty graph and survives every accepted change holds of all reachable
graphs. -/
theorem Reachable.induction {P : Graph → Prop} (hempty : P empty)
    (hstep : ∀ g g' change, P g → GraphChange.apply g change = .ok g' → P g') {g : Graph}
    (h : g.Reachable) : P g := by
  obtain ⟨changes, rfl⟩ := h
  suffices hall : ∀ start, P start → P (changes.foldl after start) from hall _ hempty
  induction changes with
  | nil => exact fun _ h => h
  | cons change changes ih =>
      intro start hstart
      refine ih _ ?_
      rw [after]
      split
      · next g' heq => exact hstep _ _ _ hstart heq
      · exact hstart

variable {g g' : Graph} {id name : String}

theorem has_node_iff : g.hasNode id = true ↔ id ∈ g.nodeIds := by
  simp [hasNode, nodeIds]

/-- A node is found under an id exactly when it is among the nodes, given that ids are distinct. -/
theorem get_node_eq_ok_iff (hids : (g.nodes.map Node.id).Nodup) {n : Node} :
    g.getNode id = .ok n ↔ n ∈ g.nodes ∧ n.id = id := by
  have hfind : g.node? id = some n ↔ n ∈ g.nodes ∧ n.id = id := by
    rw [node?]
    constructor
    · intro h
      exact ⟨List.mem_of_find?_eq_some h, by simpa using List.find?_some h⟩
    · rintro ⟨hn, rfl⟩
      cases hfound : g.nodes.find? fun m => m.id == n.id with
      | none => simpa using List.find?_eq_none.1 hfound n hn
      | some m =>
          have hm := List.mem_of_find?_eq_some hfound
          have heq : m.id = n.id := by simpa using List.find?_some hfound
          rw [List.inj_on_of_nodup_map hids hm hn heq]
  rw [getNode, ← hfind]
  cases g.node? id <;> simp

/-- A node that is found is one of the nodes and has the id. -/
theorem get_node_ok {n : Node} (h : g.getNode id = .ok n) : n ∈ g.nodes ∧ n.id = id := by
  rw [getNode] at h
  cases hfound : g.node? id with
  | none => simp [hfound] at h
  | some m =>
      simp only [hfound, Except.ok.injEq] at h
      subst h
      rw [node?] at hfound
      exact ⟨List.mem_of_find?_eq_some hfound, by simpa using List.find?_some hfound⟩

theorem get_node_isOk_iff : (∃ n, g.getNode id = .ok n) ↔ id ∈ g.nodeIds := by
  rw [getNode, node?, nodeIds]
  cases hfound : g.nodes.find? fun n => n.id == id with
  | none =>
      have hnone := List.find?_eq_none.1 hfound
      simp only [beq_iff_eq] at hnone
      simpa using hnone
  | some n =>
      have hid : n.id = id := by simpa using List.find?_some hfound
      exact ⟨fun _ => List.mem_map.2 ⟨n, List.mem_of_find?_eq_some hfound, hid⟩, fun _ => ⟨n, rfl⟩⟩

theorem require_identifier_free_eq_ok_iff {n : Node} {ignore : Option String} {u : Unit} :
    g.requireIdentifierFree n ignore = .ok u ↔
      ∀ other ∈ g.nodes, ignore ≠ some other.id → other.identifier ≠ n.identifier := by
  rw [requireIdentifierFree]
  split
  · next h =>
      obtain ⟨m, hm, h⟩ := List.any_eq_true.1 h
      simp only [Bool.and_eq_true, bne_iff_ne, beq_iff_eq] at h
      exact iff_of_false (by simp) fun hall => hall m hm h.1 h.2
  · next h =>
      refine ⟨fun _ m hm hne heq => h (List.any_eq_true.2 ⟨m, hm, ?_⟩), fun _ => rfl⟩
      simp [hne, heq]

/-- A node is added when its id and its identifier are free and its name is not blank. -/
theorem add_node_eq_ok_iff {n : Node} :
    g.addNode n = .ok g' ↔ n.id ∉ g.nodeIds ∧ isBlankText n.name = false ∧
      (∀ other ∈ g.nodes, other.identifier ≠ n.identifier) ∧
      g' = { g with nodes := g.nodes ++ [n] } := by
  simp only [addNode, refusal_eq_ok_iff, bind_eq_ok_iff, has_node_iff, Bool.not_eq_true,
    require_identifier_free_eq_ok_iff, ne_eq, reduceCtorEq, not_false_eq_true, forall_const]
  constructor
  · rintro ⟨hid, hname, -, hfree, ⟨⟩⟩
    exact ⟨hid, hname, hfree, rfl⟩
  · rintro ⟨hid, hname, hfree, rfl⟩
    exact ⟨hid, hname, (), hfree, rfl⟩

/-- A node is replaced by one with the same id, a name that is not blank and an identifier that no
other node has. When it becomes enabled, the enabled nodes have no cycle afterwards. -/
theorem update_node_eq_ok {change : NodeChange} (h : g.updateNode id change = .ok g') :
    ∃ current updated, current ∈ g.nodes ∧ current.id = id ∧ change.apply current = .ok updated ∧
      isBlankText updated.name = false ∧
      (∀ other ∈ g.nodes, other.id ≠ id → other.identifier ≠ updated.identifier) ∧
      g' = { g with nodes := g.nodes.map fun n => if n.id = id then updated else n } ∧
      ((updated.enabled = true → current.enabled = true) ∨
        Order.findCycle g'.nodes g'.edges false = none) := by
  simp only [updateNode, refusal_eq_ok_iff, bind_eq_ok_iff, Bool.not_eq_true,
    require_identifier_free_eq_ok_iff] at h
  obtain ⟨-, current, hcurrent, updated, hupdated, hname, -, hfree, h⟩ := h
  obtain ⟨hmem, hid⟩ := get_node_ok hcurrent
  refine ⟨current, updated, hmem, hid, hupdated, hname, ?_, ?_⟩
  · exact fun other hother hne => hfree other hother (by simpa using Ne.symm hne)
  · -- cycles are looked for only when the node is switched on by the change
    split at h
    · split at h
      · cases h
      · next hnone =>
          cases h
          exact ⟨rfl, .inr hnone⟩
    · next hswitched =>
        cases h
        refine ⟨rfl, .inl fun henabled => ?_⟩
        simpa [henabled] using hswitched

/-- A node is removed with its edges and its memberships. -/
theorem remove_node_eq_ok (h : g.removeNode id = .ok g') :
    g' = { g with
      nodes := g.nodes.filter fun n => decide (n.id ≠ id)
      edges := g.edges.filter fun e => decide (e.source ≠ id) && decide (e.target ≠ id)
      groups := g.groups.map fun group =>
        { group with members := group.members.filter fun m => decide (m ≠ id) } } := by
  simp only [removeNode, bind_eq_ok_iff] at h
  obtain ⟨-, -, ⟨⟩⟩ := h
  rfl

/-- Nothing speaks against an edge between distinct ends that is not there yet and closes no cycle
in case it is a hard one. -/
theorem connection_fault_eq_none_iff {nodes : List Node} {edges : List Edge}
    {source target : String} {relation : Relation} :
    Order.connectionFault nodes edges source target relation = none ↔
      source ≠ target ∧ ⟨source, target, relation⟩ ∉ edges ∧
      (relation.isHard = true →
        Order.findCycle nodes (edges ++ [⟨source, target, .dependsOn⟩]) false = none) := by
  rw [Order.connectionFault]
  by_cases hself : source = target
  · simp [hself]
  · by_cases hmem : ⟨source, target, relation⟩ ∈ edges
    · simp [hself, hmem]
    · simp [hself, hmem, Order.wouldCreateCycle]

/-- An edge is added when its ends are nodes and nothing speaks against it. -/
theorem add_edge_eq_ok_iff {source target : String} {relation : Relation} :
    g.addEdge source target relation = .ok g' ↔ source ∈ g.nodeIds ∧ target ∈ g.nodeIds ∧
      Order.connectionFault g.nodes g.edges source target relation = none ∧
      g' = { g with edges := g.edges ++ [⟨source, target, relation⟩] } := by
  simp only [addEdge, bind_eq_ok_iff, exists_and_right, get_node_isOk_iff]
  refine and_congr_right fun _ => and_congr_right fun _ => ?_
  cases Order.connectionFault g.nodes g.edges source target relation with
  | none =>
      constructor
      · rintro ⟨⟩
        exact ⟨rfl, rfl⟩
      · rintro ⟨-, rfl⟩
        rfl
  | some fault => cases fault <;> simp [throw, throwThe, MonadExceptOf.throw]

/-- An edge that is there is removed, wherever it stands. -/
theorem remove_edge_eq_ok {source target : String} {relation : Relation}
    (h : g.removeEdge source target relation = .ok g') :
    ⟨source, target, relation⟩ ∈ g.edges ∧
      g' = { g with edges := g.edges.filter fun e => decide (e ≠ ⟨source, target, relation⟩) } := by
  rw [removeEdge] at h
  split at h
  · next hmem =>
      cases h
      exact ⟨hmem, rfl⟩
  · cases h

/-- A group that is found is one of the groups and has the id. -/
theorem get_group_eq_ok {group : Group} (h : g.getGroup id = .ok group) :
    group ∈ g.groups ∧ group.id = id := by
  rw [getGroup] at h
  split at h
  · next found hfound =>
      cases h
      exact ⟨List.mem_of_find?_eq_some hfound, by simpa using List.find?_some hfound⟩
  · cases h

theorem get_group_isOk_iff :
    (∃ group, g.getGroup id = .ok group) ↔ ∃ group ∈ g.groups, group.id = id := by
  rw [getGroup]
  cases hfound : g.groups.find? fun group => group.id == id with
  | none =>
      have hnone := List.find?_eq_none.1 hfound
      simp only [beq_iff_eq] at hnone
      simpa using hnone
  | some group =>
      have hid : group.id = id := by simpa using List.find?_some hfound
      exact ⟨fun _ => ⟨group, List.mem_of_find?_eq_some hfound, hid⟩, fun _ => ⟨group, rfl⟩⟩

/-- A name suits a group when, trimmed, it is neither empty nor too long and no other group has it,
whatever the case of its letters. -/
theorem require_group_name_eq_ok_iff {exclude : Option String} {u : Unit} :
    g.requireGroupName name exclude = .ok u ↔
      trim name ≠ "" ∧ (trim name).length ≤ maxGroupNameLength ∧
        ∀ other ∈ g.groups, exclude ≠ some other.id → lower other.name ≠ lower (trim name) := by
  have hrequire : g.requireGroupName name exclude = .ok u ↔
      groupNameFault name g.groups exclude = none := by
    rw [requireGroupName]
    cases groupNameFault name g.groups exclude with
    | none => simp
    | some fault => cases fault <;> simp
  rw [hrequire, groupNameFault]
  by_cases hempty : trim name = ""
  · simp [hempty]
  · by_cases hlong : maxGroupNameLength < (trim name).length
    · simp [hempty, hlong]
    · simp [hempty, hlong, Nat.le_of_not_lt hlong]

/-- The nodes of a list can be looked up one after another when all are there. -/
theorem for_get_node_isOk_iff {ids : List String} :
    (∃ u, (ids.forM fun nodeId => do let _ ← g.getNode nodeId) = .ok u) ↔
      ∀ nodeId ∈ ids, nodeId ∈ g.nodeIds := by
  induction ids with
  | nil => exact ⟨fun _ => by simp, fun _ => ⟨(), rfl⟩⟩
  | cons first rest ih =>
      rw [List.forall_mem_cons, ← ih, ← get_node_isOk_iff]
      simp only [List.forM_eq_forM, List.forM_cons, bind_eq_ok_iff]
      constructor
      · rintro ⟨u, _, ⟨n, hn, -⟩, hrest⟩
        exact ⟨⟨n, hn⟩, ⟨u, hrest⟩⟩
      · rintro ⟨⟨n, hn⟩, ⟨u, hrest⟩⟩
        exact ⟨u, (), ⟨n, hn, rfl⟩, hrest⟩

/-- The groups after nodes were moved into the one of an id. -/
def movedGroups (groups : List Group) (id : String) (moved : List String) : List Group :=
  groups.map fun group =>
    let kept := group.members.filter fun m => decide (m ∉ moved)
    { group with members := if group.id = id then kept ++ moved else kept }

/-- Existing nodes are moved into a group that is there. -/
theorem assign_to_group_eq_ok_iff {nodeIds : List String} :
    g.assignToGroup id nodeIds = .ok g' ↔
      (∃ group ∈ g.groups, group.id = id) ∧ (∀ nodeId ∈ nodeIds, nodeId ∈ g.nodeIds) ∧
        g' = { g with groups := movedGroups g.groups id (firsts nodeIds) } := by
  have hmembers : (∀ nodeId ∈ nodeIds, nodeId ∈ g.nodeIds) ↔
      ∀ nodeId ∈ firsts nodeIds, nodeId ∈ g.nodeIds := by
    simp only [mem_firsts]
  rw [hmembers, ← get_group_isOk_iff, ← for_get_node_isOk_iff]
  simp only [assignToGroup, bind_eq_ok_iff]
  constructor
  · rintro ⟨group, hgroup, u, hfound, ⟨⟩⟩
    exact ⟨⟨group, hgroup⟩, ⟨u, hfound⟩, rfl⟩
  · rintro ⟨⟨group, hgroup⟩, ⟨u, hfound⟩, rfl⟩
    exact ⟨group, hgroup, u, hfound, rfl⟩

/-- A group with a free id and a suitable name comes to the end, and its members move into it. -/
theorem add_group_eq_ok_iff {group : Group} :
    g.addGroup group = .ok g' ↔
      (∀ other ∈ g.groups, other.id ≠ group.id) ∧ trim group.name ≠ "" ∧
        (trim group.name).length ≤ maxGroupNameLength ∧
        (∀ other ∈ g.groups, lower other.name ≠ lower (trim group.name)) ∧
        (∀ nodeId ∈ group.members, nodeId ∈ g.nodeIds) ∧
        g' = { g with
          groups := movedGroups
            (g.groups ++ [{ group with name := trim group.name, members := [] }])
            group.id (firsts group.members) } := by
  let added : Graph := { g with
    groups := g.groups ++ [{ group with name := trim group.name, members := [] }] }
  have hmove : (if group.members.isEmpty then pure added
      else added.assignToGroup group.id group.members) = .ok g' ↔
        (∀ nodeId ∈ group.members, nodeId ∈ g.nodeIds) ∧
          g' = { added with
            groups := movedGroups added.groups group.id (firsts group.members) } := by
    split_ifs with hempty
    · have hnil : group.members = [] := by simpa using hempty
      simp [hnil, firsts, movedGroups, pure, Except.pure, eq_comm]
    · have hthere : ∃ other ∈ added.groups, other.id = group.id :=
        ⟨_, List.mem_append_right _ (List.mem_singleton_self _), rfl⟩
      rw [assign_to_group_eq_ok_iff]
      exact and_iff_right hthere
  simp only [addGroup, refusal_eq_ok_iff, bind_eq_ok_iff, List.any_eq_true, beq_iff_eq,
    not_exists, not_and, require_group_name_eq_ok_iff, ne_eq, reduceCtorEq, not_false_eq_true,
    forall_const]
  refine and_congr_right fun _ => ?_
  constructor
  · rintro ⟨-, ⟨hempty, hlong, hfree⟩, h⟩
    exact ⟨hempty, hlong, hfree, hmove.1 h⟩
  · rintro ⟨hempty, hlong, hfree, h⟩
    exact ⟨(), ⟨hempty, hlong, hfree⟩, hmove.2 h⟩

/-- A group gets a suitable name. -/
theorem rename_group_eq_ok (h : g.renameGroup id name = .ok g') :
    ∃ group ∈ g.groups, group.id = id ∧ trim name ≠ "" ∧
      (trim name).length ≤ maxGroupNameLength ∧
      (∀ other ∈ g.groups, other.id ≠ id → lower other.name ≠ lower (trim name)) ∧
      g' = g.replaceGroup { group with name := trim name } := by
  simp only [renameGroup, bind_eq_ok_iff] at h
  obtain ⟨group, hgroup, _, hname, ⟨⟩⟩ := h
  obtain ⟨hmem, hid⟩ := get_group_eq_ok hgroup
  obtain ⟨hempty, hlong, hfree⟩ := require_group_name_eq_ok_iff.1 hname
  refine ⟨group, hmem, hid, hempty, hlong, fun other hother hne => ?_, rfl⟩
  exact hfree other hother (by simpa using Ne.symm hne)

theorem remove_group_eq_ok (h : g.removeGroup id = .ok g') :
    g' = { g with groups := g.groups.filter fun group => decide (group.id ≠ id) } := by
  simp only [removeGroup, bind_eq_ok_iff] at h
  obtain ⟨-, -, ⟨⟩⟩ := h
  rfl

/-- Members are taken out of a group. -/
theorem remove_from_group_eq_ok {nodeIds : List String}
    (h : g.removeFromGroup id nodeIds = .ok g') :
    ∃ group ∈ g.groups, group.id = id ∧ g' = g.replaceGroup { group with
      members := group.members.filter fun m => decide (m ∉ nodeIds) } := by
  simp only [removeFromGroup, bind_eq_ok_iff] at h
  obtain ⟨group, hgroup, ⟨⟩⟩ := h
  obtain ⟨hmem, hid⟩ := get_group_eq_ok hgroup
  exact ⟨group, hmem, hid, rfl⟩

/-- A variable that is found is one of the variables and has the name. -/
theorem get_variable_eq_ok {v : Variable} (h : g.getVariable name = .ok v) :
    v ∈ g.vars ∧ v.name = name := by
  rw [getVariable] at h
  split at h
  · next found hfound =>
      cases h
      exact ⟨List.mem_of_find?_eq_some hfound, by simpa using List.find?_some hfound⟩
  · cases h

theorem require_value_eq_ok_iff {v : Variable} {value : String} {u : Unit} :
    requireValue v value = .ok u ↔ v.type.fault? value = none := by
  rw [requireValue]
  cases v.type.fault? value <;> simp

/-- The values of a variable fit its type. -/
def fits (v : Variable) : Prop :=
  v.type.fault? v.defaultValue = none ∧ ∀ value, v.value = some value → v.type.fault? value = none

/-- A variable is declared when its name is well formed and free, its id is free, and its values fit
its type. -/
theorem add_variable_eq_ok_iff {v : Variable} :
    g.addVariable v = .ok g' ↔ isVariableName v.name = true ∧
      (∀ other ∈ g.vars, other.name ≠ v.name) ∧ (∀ other ∈ g.vars, other.id ≠ v.id) ∧ fits v ∧
      g' = { g with vars := g.vars ++ [v] } := by
  simp only [addVariable, refusal_eq_ok_iff, bind_eq_ok_iff, List.any_eq_true, beq_iff_eq,
    not_exists, not_and, require_value_eq_ok_iff, Bool.not_eq_true', Bool.not_eq_false, fits]
  refine and_congr_right fun _ => and_congr_right fun _ => and_congr_right fun _ => ?_
  constructor
  · rintro ⟨-, hdefault, h⟩
    split at h
    · next hvalue =>
        cases h
        exact ⟨⟨hdefault, by simp [hvalue]⟩, rfl⟩
    · next value hvalue =>
        simp only [bind_eq_ok_iff, require_value_eq_ok_iff] at h
        obtain ⟨-, hfits, ⟨⟩⟩ := h
        exact ⟨⟨hdefault, by simpa [hvalue] using hfits⟩, rfl⟩
  · rintro ⟨⟨hdefault, hvalue⟩, rfl⟩
    refine ⟨(), hdefault, ?_⟩
    split
    · rfl
    · next value heq =>
        exact bind_eq_ok_iff.2 ⟨(), require_value_eq_ok_iff.2 (hvalue value heq), rfl⟩

/-- A variable gets a value that fits its type, or none. -/
theorem update_variable_value_eq_ok {value : Option String}
    (h : g.updateVariableValue name value = .ok g') :
    ∃ v ∈ g.vars, v.name = name ∧ (∀ text, value = some text → v.type.fault? text = none) ∧
      g' = g.replaceVariable name { v with value } := by
  simp only [updateVariableValue, bind_eq_ok_iff] at h
  obtain ⟨v, hv, h⟩ := h
  obtain ⟨hmem, hname⟩ := get_variable_eq_ok hv
  refine ⟨v, hmem, hname, ?_⟩
  split at h
  · cases h
    exact ⟨by simp, rfl⟩
  · simp only [bind_eq_ok_iff, require_value_eq_ok_iff] at h
    obtain ⟨-, hfits, ⟨⟩⟩ := h
    exact ⟨by simpa using hfits, rfl⟩

/-- A variable that is not built in keeps its name or gets a well-formed and free one. -/
theorem rename_variable_eq_ok {new : String} (h : g.renameVariable name new = .ok g') :
    g' = g ∨ ∃ v ∈ g.vars, v.name = name ∧ v.isSystem = false ∧ isVariableName new = true ∧
      (∀ other ∈ g.vars, other.name ≠ new) ∧
      g' = g.replaceVariable name { v with name := new } := by
  simp only [renameVariable, bind_eq_ok_iff, refusal_eq_ok_iff, Bool.not_eq_true] at h
  obtain ⟨v, hv, hsystem, h⟩ := h
  obtain ⟨hmem, hname⟩ := get_variable_eq_ok hv
  split at h
  · cases h
    exact .inl rfl
  · simp only [refusal_eq_ok_iff, List.any_eq_true, beq_iff_eq, not_exists, not_and,
      Bool.not_eq_true', Bool.not_eq_false] at h
    obtain ⟨hwell, hfree, ⟨⟩⟩ := h
    exact .inr ⟨v, hmem, hname, hsystem, hwell, hfree, rfl⟩

/-- A variable that is not built in is removed. -/
theorem remove_variable_eq_ok (h : g.removeVariable name = .ok g') :
    ∃ v ∈ g.vars, v.name = name ∧ v.isSystem = false ∧
      g' = { g with vars := g.vars.filter fun other => decide (other.name ≠ name) } := by
  simp only [removeVariable, bind_eq_ok_iff, refusal_eq_ok_iff, Bool.not_eq_true] at h
  obtain ⟨v, hv, hsystem, ⟨⟩⟩ := h
  obtain ⟨hmem, hname⟩ := get_variable_eq_ok hv
  exact ⟨v, hmem, hname, hsystem, rfl⟩

end Graph

end BuildGraph
