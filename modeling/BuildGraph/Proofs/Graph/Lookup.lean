import BuildGraph.Proofs.Graph.BuilderSteps
import BuildGraph.Proofs.Graph.WellFormed
import BuildGraph.Proofs.Script.Accounted

/-!
# Looking up tasks by name

A node is called by its name and by its identifier, and both have the same identifier. So where
identifiers are distinct, a name stands for one node at most (`Means`), whatever the order of the
nodes: `Graph.NamesResolve`. Every graph that grows by accepted changes from one without tasks is
such a graph, that of a builder and that of a script among them, and the edges that these add
by name join the tasks that are meant: `name_lookup_spec`.
-/

namespace BuildGraph

variable {nodes : List Node} {n : Node} {name : String}

section Names

/-- Whether the node is called by the name, which is its own or its identifier. -/
def Node.isCalled (name : String) (n : Node) : Bool := n.name == name || n.identifier == name

/-- Of all nodes the name stands for the given one alone. -/
structure Means (nodes : List Node) (name : String) (n : Node) : Prop where
  mem : n ∈ nodes
  called : n.isCalled name = true
  only : ∀ m ∈ nodes, m.isCalled name = true → m = n

/-- Names are looked up without ambiguity. -/
structure Graph.NamesResolve (g : Graph) : Prop where
  /-- A name calls one node at most. -/
  unique : ∀ name, g.nodes.countP (Node.isCalled name) ≤ 1
  /-- The order of the nodes does not matter. -/
  unordered : ∀ name nodes, nodes.Perm g.nodes →
    ({ g with nodes } : Graph).nodeNamed? name = g.nodeNamed? name
  /-- A node is found by its name and by its identifier. -/
  found : ∀ n ∈ g.nodes, g.nodeNamed? n.name = some n ∧ g.nodeNamed? n.identifier = some n

/-- All that a node is called has the identifier of the node. -/
theorem Node.identifier_of_isCalled (h : n.isCalled name = true) :
    n.identifier = toIdentifier name := by
  rw [isCalled, Bool.or_eq_true, beq_iff_eq, beq_iff_eq] at h
  rcases h with rfl | rfl
  · rfl
  · exact (to_identifier_to_identifier n.name).symm

/-- The order of the nodes does not matter for what a name stands for. -/
theorem Means.perm (h : Means nodes name n) {nodes' : List Node} (hperm : nodes.Perm nodes') :
    Means nodes' name n :=
  ⟨hperm.mem_iff.1 h.mem, h.called, fun m hm => h.only m (hperm.mem_iff.2 hm)⟩

/-- Where identifiers are distinct, a node that is called by a name is the only one. -/
theorem Means.of_nodup (h : (nodes.map Node.identifier).Nodup) (hn : n ∈ nodes)
    (hcalled : n.isCalled name = true) : Means nodes name n :=
  ⟨hn, hcalled, fun _ hm hcalled' => List.inj_on_of_nodup_map h hm hn
    ((Node.identifier_of_isCalled hcalled').trans (Node.identifier_of_isCalled hcalled).symm)⟩

/-- Where identifiers are distinct, the node that is found is the one that is meant. -/
theorem Graph.nodeNamed?_eq_some_iff {g : Graph} (h : (g.nodes.map Node.identifier).Nodup) :
    g.nodeNamed? name = some n ↔ Means g.nodes name n := by
  constructor
  · intro hfound
    exact .of_nodup h (List.mem_of_find?_eq_some hfound) (List.find?_some hfound)
  · intro hmeans
    obtain ⟨found, hfound⟩ := Option.isSome_iff_exists.1
      (List.find?_isSome.2 ⟨n, hmeans.mem, hmeans.called⟩)
    have hsame := hmeans.only found (List.mem_of_find?_eq_some hfound) (List.find?_some hfound)
    exact hsame ▸ hfound

theorem Graph.namesResolve_of_nodup {g : Graph} (h : (g.nodes.map Node.identifier).Nodup) :
    g.NamesResolve where
  unique := fun name => by
    have hcount := List.nodup_iff_count_le_one.1 h (toIdentifier name)
    rw [List.count, List.countP_map] at hcount
    refine le_trans (List.countP_mono_left fun m _ hm => ?_) hcount
    exact beq_iff_eq.2 (Node.identifier_of_isCalled hm)
  unordered := fun name nodes hperm => by
    have hnodup : (nodes.map Node.identifier).Nodup := (hperm.map _).nodup_iff.2 h
    refine Option.ext fun n => ?_
    rw [nodeNamed?_eq_some_iff hnodup, nodeNamed?_eq_some_iff h]
    exact ⟨fun hmeans => hmeans.perm hperm, fun hmeans => hmeans.perm hperm.symm⟩
  found := fun n hn =>
    ⟨(nodeNamed?_eq_some_iff h).2 (.of_nodup h hn (by simp [Node.isCalled])),
      (nodeNamed?_eq_some_iff h).2 (.of_nodup h hn (by simp [Node.isCalled]))⟩

end Names

section Growth

namespace Graph

variable {g g' : Graph}

/-- The graph is what some changes make of one without tasks. -/
def Grown (g : Graph) : Prop :=
  ∃ (start : Graph) (changes : List GraphChange), start.nodes = [] ∧ g = changes.foldl after start

theorem Reachable.grown (h : g.Reachable) : g.Grown :=
  h.elim fun changes heq => ⟨empty, changes, rfl, heq⟩

theorem grown_empty : empty.Grown := Reachable.grown ⟨[], rfl⟩

theorem Grown.apply (h : g.Grown) (change : GraphChange) (hg' : change.apply g = .ok g') :
    g'.Grown := by
  obtain ⟨start, changes, hstart, rfl⟩ := h
  refine ⟨start, changes ++ [change], hstart, ?_⟩
  rw [List.foldl_append, List.foldl_cons, List.foldl_nil, after.eq_def (changes.foldl after start),
    hg']

end Graph

open BuildGraph.Graph in
/-- Every accepted change keeps nodes well formed, whatever else the graph holds. -/
theorem NodesWellFormed.apply {g g' : Graph} (h : NodesWellFormed g.nodes) {change : GraphChange}
    (hg' : change.apply g = .ok g') : NodesWellFormed g'.nodes := by
  cases change with
  | addNode n =>
      obtain ⟨hid, hname, hidentifier, rfl⟩ := add_node_eq_ok_iff.1 hg'
      exact h.append hid hname hidentifier
  | updateNode id change =>
      obtain ⟨current, updated, -, rfl, happly, hname, hidentifier, rfl, -⟩ := update_node_eq_ok hg'
      exact h.replace (NodeChange.apply_eq_ok happly) hname hidentifier
  | removeNode id =>
      obtain rfl := remove_node_eq_ok hg'
      exact h.filter _
  -- no other change touches the nodes
  | addEdge source target relation =>
      obtain ⟨-, -, -, rfl⟩ := add_edge_eq_ok_iff.1 hg'
      exact h
  | removeEdge source target relation =>
      obtain ⟨-, rfl⟩ := remove_edge_eq_ok hg'
      exact h
  | updateEdgeRelation source target relation new =>
      obtain ⟨removed, hremoved, hadded⟩ := bind_eq_ok_iff.1 hg'
      obtain ⟨-, rfl⟩ := remove_edge_eq_ok hremoved
      obtain ⟨-, -, -, rfl⟩ := add_edge_eq_ok_iff.1 hadded
      exact h
  | addGroup group =>
      obtain ⟨-, -, -, -, -, rfl⟩ := add_group_eq_ok_iff.1 hg'
      exact h
  | renameGroup id name =>
      obtain ⟨_, -, -, -, -, -, rfl⟩ := rename_group_eq_ok hg'
      exact h
  | removeGroup id =>
      obtain rfl := remove_group_eq_ok hg'
      exact h
  | assignToGroup id nodeIds =>
      obtain ⟨-, -, rfl⟩ := assign_to_group_eq_ok_iff.1 hg'
      exact h
  | removeFromGroup id nodeIds =>
      obtain ⟨_, -, -, rfl⟩ := remove_from_group_eq_ok hg'
      exact h
  | addVariable v =>
      obtain ⟨-, -, -, -, rfl⟩ := add_variable_eq_ok_iff.1 hg'
      exact h
  | updateVariableValue name value =>
      obtain ⟨_, -, -, -, rfl⟩ := update_variable_value_eq_ok hg'
      exact h
  | renameVariable name new =>
      rcases rename_variable_eq_ok hg' with rfl | ⟨_, -, -, -, -, -, rfl⟩
      · exact h
      · exact h
  | removeVariable name =>
      obtain ⟨_, -, -, -, rfl⟩ := remove_variable_eq_ok hg'
      exact h

/-- Grown graphs have distinct identifiers. -/
theorem Graph.Grown.identifiers {g : Graph} (h : g.Grown) :
    (g.nodes.map Node.identifier).Nodup := by
  obtain ⟨start, changes, hstart, rfl⟩ := h
  refine NodesWellFormed.identifiers (List.foldlRecOn
    (motive := fun g : Graph => NodesWellFormed g.nodes) changes Graph.after ?_ ?_)
  · rw [hstart]
    constructor <;> simp
  · intro g hg change _
    rw [Graph.after]
    split
    · next g' hg' => exact hg.apply hg'
    · exact hg

end Growth

section Builders

namespace Builder

/-- A relation between two tasks that are given by name. -/
structure NamedEdge where
  source : String
  target : String
  relation : Relation

/-- The edge joins the two tasks that the names stand for. -/
def JoinsMeant (nodes : List Node) (named : NamedEdge) (e : Edge) : Prop :=
  ∃ source target, Means nodes named.source source ∧ Means nodes named.target target ∧
    e = ⟨source.id, target.id, named.relation⟩

/-- The relations by name that a step asks for, in their order. -/
def Call.relations : Call → List NamedEdge
  | .addTask spec => spec.dependsOn.map (⟨·, spec.name, .dependsOn⟩)
  | .connect source target relation => [⟨source, target, relation⟩]
  | .dependsOn name upstream => [⟨upstream, name, .dependsOn⟩]
  | .mustRunAfter name other => [⟨other, name, .mustRunAfter⟩]
  | .shouldRunAfter name other => [⟨other, name, .shouldRunAfter⟩]
  | .finalizedBy name finalizer => [⟨name, finalizer, .finalizedBy⟩]
  | .addGroup _ _ _ _ => []
  | .addVariable _ _ _ _ _ => []

/-- The step left a grown graph and added an edge for each of the relations, or for those before one
that was refused. Each of the edges joins the tasks that are meant. -/
structure AddsByName (b : Builder) (relations : List NamedEdge) (r : Result) : Prop where
  grown : r.1.graph.Grown
  joined : ∃ done edges, done <+: relations ∧ (r.2 = .ok () → done = relations) ∧
    r.1.graph.edges = b.graph.edges ++ edges ∧
    List.Forall₂ (JoinsMeant r.1.graph.nodes) done edges

variable {b left : Builder} {relations : List NamedEdge} {name source target : String}
  {relation : Relation} {cause : BuilderError} {spec : TaskSpec} {u : Unit}

theorem nodeId_ok {id : String} (h : b.graph.Grown) (hid : b.nodeId name = .ok id) :
    ∃ n, Means b.graph.nodes name n ∧ n.id = id := by
  rw [nodeId] at hid
  split at hid
  · next n hfound =>
      cases hid
      exact ⟨n, (Graph.nodeNamed?_eq_some_iff h.identifiers).1 hfound, rfl⟩
  · cases hid

/-- What holds of the graph and of the changed one holds after a change, be it refused or not. -/
theorem put_graph {P : Graph → Prop} {change : Except GraphError Graph} (h : P b.graph)
    (hchange : ∀ g, change = .ok g → P g) : P (b.put change).1.graph := by
  cases change with
  | ok g => exact hchange g rfl
  | error _ => exact h

theorem grown_connect (h : b.graph.Grown) (source target : String) (relation : Relation) :
    (b.connect source target relation).1.graph.Grown := by
  rw [connect]
  split
  · exact h
  · split
    · exact h
    · exact put_graph h fun g hg => h.apply (.addEdge _ _ _) hg

theorem grown_dependOnAll {upstreams : List String} (h : b.graph.Grown) :
    (b.dependOnAll name upstreams).1.graph.Grown := by
  induction upstreams generalizing b with
  | nil => exact h
  | cons upstream rest ih =>
      have hconnect : (b.connect upstream name .dependsOn).1.graph.Grown :=
        grown_connect h upstream name .dependsOn
      rw [dependOnAll]
      split
      · next joined heq =>
          rw [heq] at hconnect
          exact ih hconnect
      · next joined cause heq =>
          rw [heq] at hconnect
          exact hconnect

theorem grown_enter (h : b.graph.Grown) : (b.enter spec).1.graph.Grown := by
  refine put_graph (b := (b.issue "task").2) h fun g hg => ?_
  obtain ⟨n, -, hadded⟩ := bind_eq_ok_iff.1 hg
  exact h.apply (.addNode n) hadded

/-- A step that leaves edges as they were added none, and was refused unless it asked for none. -/
theorem AddsByName.of_edges_eq {r : Result} (hgrown : r.1.graph.Grown)
    (hedges : r.1.graph.edges = b.graph.edges) (hrefused : r.2 = .ok () → relations = []) :
    AddsByName b relations r where
  grown := hgrown
  joined := ⟨[], [], List.nil_prefix, fun hok => (hrefused hok).symm, by simp [hedges], .nil⟩

theorem connect_adds (h : b.graph.Grown) :
    AddsByName b [⟨source, target, relation⟩] (b.connect source target relation) := by
  have hgrown := grown_connect h source target relation
  generalize hr : b.connect source target relation = r at hgrown
  obtain ⟨left, outcome⟩ := r
  cases outcome with
  | error cause =>
      obtain rfl := connect_error hr
      exact .of_edges_eq hgrown rfl (by simp)
  | ok u =>
      obtain ⟨sourceId, targetId, hsource, htarget, rfl⟩ := connect_ok hr
      obtain ⟨m, hm, rfl⟩ := nodeId_ok h hsource
      obtain ⟨n, hn, rfl⟩ := nodeId_ok h htarget
      exact ⟨hgrown, _, _, List.prefix_refl _, fun _ => rfl, rfl,
        .cons ⟨m, n, hm, hn, rfl⟩ .nil⟩

/-- Accepted dependencies join the tasks that are meant. -/
theorem joins_dependOnAll {upstreams : List String} (h : b.graph.Grown)
    (hname : b.nodeId name = .ok target) (hok : b.dependOnAll name upstreams = (left, .ok u)) :
    ∃ edges, left.graph.edges = b.graph.edges ++ edges ∧
      List.Forall₂ (JoinsMeant left.graph.nodes) (upstreams.map (⟨·, name, .dependsOn⟩)) edges := by
  obtain ⟨sources, hsources, rfl⟩ := depend_on_all_ok hname hok
  obtain ⟨n, hn, rfl⟩ := nodeId_ok h hname
  refine ⟨_, rfl, ?_⟩
  rw [List.forall₂_map_left_iff, List.forall₂_map_right_iff]
  refine (mapM_eq_ok_iff.1 hsources).imp fun upstream source hsource => ?_
  obtain ⟨m, hm, rfl⟩ := nodeId_ok h hsource
  exact ⟨m, n, hm, hn, rfl⟩

/-- A task is added with an edge for each of its dependencies up to the first that is refused. -/
theorem addTask_adds (h : b.graph.Grown) (spec : TaskSpec) :
    AddsByName b (spec.dependsOn.map (⟨·, spec.name, .dependsOn⟩)) (b.addTask spec) := by
  have hentered : (b.enter spec).1.graph.Grown := grown_enter h
  rw [add_task_eq]
  generalize hr : b.enter spec = r at hentered
  obtain ⟨entered, outcome⟩ := r
  cases outcome with
  | error cause => exact .of_edges_eq hentered (by rw [enter_error hr]) (by simp)
  | ok u =>
      obtain ⟨n, -, hname, hgraph⟩ := enter_ok hr
      have hgrown : (entered.dependOnAll spec.name spec.dependsOn).1.graph.Grown :=
        grown_dependOnAll hentered
      dsimp only
      generalize hr : entered.dependOnAll spec.name spec.dependsOn = r at hgrown
      obtain ⟨left, outcome⟩ := r
      cases outcome with
      | ok u =>
          obtain ⟨edges, hedges, hjoins⟩ := joins_dependOnAll hentered hname hr
          exact ⟨hgrown, _, edges, List.prefix_refl _, fun _ => rfl, by simp [hedges, hgraph],
            hjoins⟩
      | error cause =>
          obtain ⟨done, refused, rest, hsplit, hdone, -⟩ := depend_on_all_error hr
          obtain ⟨edges, hedges, hjoins⟩ := joins_dependOnAll hentered hname hdone
          exact ⟨hgrown, _, edges, by simp [hsplit], by simp, by simp [hedges, hgraph], hjoins⟩

theorem addGroup_adds (h : b.graph.Grown) (members : List String) (color : String)
    (description : Option String) :
    AddsByName b [] (b.addGroup name members color description) := by
  rw [addGroup]
  dsimp only
  split
  · exact .of_edges_eq h rfl (by simp)
  · refine .of_edges_eq (put_graph h fun g hg => h.apply (.addGroup _) hg)
      (put_graph (P := fun g => g.edges = b.graph.edges) rfl fun g hg => ?_) fun _ => rfl
    obtain ⟨-, -, -, -, -, rfl⟩ := Graph.add_group_eq_ok_iff.1 hg
    rfl

theorem addVariable_adds (h : b.graph.Grown) (default : String) (type : ValueType)
    (value description : Option String) :
    AddsByName b [] (b.addVariable name default type value description) := by
  refine .of_edges_eq (put_graph (b := (b.issue "var").2) h fun g hg => h.apply (.addVariable _) hg)
    (put_graph (b := (b.issue "var").2) (P := fun g => g.edges = b.graph.edges) rfl fun g hg => ?_)
    fun _ => rfl
  obtain ⟨-, -, -, -, rfl⟩ := Graph.add_variable_eq_ok_iff.1 hg
  rfl

/-- Each step adds edges between the tasks that its names stand for. -/
theorem take_adds (h : b.graph.Grown) (call : Call) :
    AddsByName b call.relations (b.take call) := by
  cases call with
  | addTask spec => exact addTask_adds h spec
  | connect | dependsOn | mustRunAfter | shouldRunAfter | finalizedBy => exact connect_adds h
  | addGroup => exact addGroup_adds h _ _ _
  | addVariable => exact addVariable_adds h _ _ _ _

/-- A builder after several steps, refused ones among them. -/
def takeAll (b : Builder) (calls : List Call) : Builder :=
  calls.foldl (fun b call => (b.take call).1) b

theorem grown_takeAll (h : b.graph.Grown) (calls : List Call) : (b.takeAll calls).graph.Grown := by
  induction calls generalizing b with
  | nil => exact h
  | cons call calls ih => exact ih (take_adds h call).grown

end Builder

end Builders

section Scripts

namespace Script

variable {r : ScriptReading} {text : String} {ids : IdGenerator}

/-- The edges of a graph that was read from a script join the task in whose body the relation stands
and the one that the argument of the relation refers to. -/
structure ReadsByName (text : String) (r : ScriptReading) : Prop where
  grown : r.graph.Grown
  joined : ∀ e ∈ r.graph.edges,
    ∃ task ∈ (recognized 0 none (scan text).tokens).filterMap Item.task?,
    ∃ argument ∈ task.arguments, ∃ name n other, taskReference? argument.2 = some name ∧
      Means r.graph.nodes task.name n ∧ Means r.graph.nodes name other ∧
      e = edgeTo n other argument.1

theorem grown_declareVariables (h : r.graph.Grown) (vars : List Variable) :
    (declareVariables vars r).graph.Grown := by
  induction vars generalizing r with
  | nil => exact h
  | cons v vars ih =>
      rw [declareVariables]
      split
      · next g hg => exact ih (r := { r with graph := g }) (h.apply (.addVariable v) hg)
      · exact ih h

theorem grown_addNodes (h : r.graph.Grown) (blocks : List Block) (ids : IdGenerator) :
    (addNodes blocks ids r).1.graph.Grown := by
  induction blocks generalizing ids r with
  | nil => exact h
  | cons b blocks ih =>
      rw [addNodes]
      dsimp only
      split
      · next g hg => exact ih (r := { r with graph := g }) (h.apply (.addNode _) hg) _
      · next cause hg =>
          exact ih (r := { r with errors := r.errors ++ [⟨b.name, b.line, cause.message⟩] }) h _

theorem grown_addRelation (h : r.graph.Grown) (b : Block) (n : Node)
    (relation : Relation × String) : (addRelation b n r relation).graph.Grown := by
  rw [addRelation]
  split
  · exact h
  · dsimp only
    split
    · next g hg => exact h.apply (.addEdge _ _ _) hg
    · exact h

/-- A script is put together by changes of the graph. -/
theorem grown_assemble (found : Findings) : (assemble found).graph.Grown := by
  have hnodes := grown_addNodes (grown_declareVariables
    (r := ⟨Graph.empty, found.errors, found.warnings⟩) Graph.grown_empty found.vars)
    found.blocks found.ids
  rw [assemble]
  dsimp only
  generalize addNodes found.blocks found.ids _ = result at hnodes ⊢
  obtain ⟨r, built⟩ := result
  have hjoined : (built.foldl (fun r b =>
      b.1.relations.foldl (addRelation b.1 b.2) r) r).graph.Grown :=
    List.foldlRecOn (motive := fun r : ScriptReading => r.graph.Grown) built _ hnodes
      fun r hr b _ => List.foldlRecOn (motive := fun r : ScriptReading => r.graph.Grown)
        b.1.relations _ hr fun r hr relation _ => grown_addRelation hr b.1 b.2 relation
  split_ifs
  · exact hjoined
  · exact hjoined

/-- The edges of a script are added where its tasks are recognized, for arguments of relations. -/
theorem reads_by_name (h : readScript text ids = .ok r) : ReadsByName text r := by
  obtain ⟨found, hfound, hr⟩ := bind_eq_ok_iff.1 h
  cases hr
  have hgrown := grown_assemble found
  rw [readTokens_eq_record] at hfound
  obtain ⟨account⟩ := account_of_recorded (fun w hw => by
    obtain ⟨fault, -, rfl⟩ := List.mem_map.1 hw
    exact .lexical fault.1 fault.2) (recorded_foldlM hfound)
  refine ⟨hgrown, fun e he => ?_⟩
  rw [← account.edges] at he
  obtain ⟨⟨a, e⟩, hjoined, rfl⟩ := List.mem_map.1 he
  obtain ⟨hmem, name, other, hname, hother, heq⟩ := account.arguments.left_of_mem _ hjoined
  obtain ⟨⟨task, n⟩, hmade, ha⟩ := List.mem_flatMap.1 hmem
  obtain ⟨argument, hargument, rfl⟩ := List.mem_map.1 ha
  obtain ⟨htask, hbecomes⟩ := account.tasks.left_of_mem _ hmade
  have hn : n ∈ (assemble found).graph.nodes := by
    rw [← account.nodes]
    exact List.mem_map.2 ⟨_, hmade, rfl⟩
  have hcalled : n.isCalled task.name = true := by
    have : n.name = task.name := hbecomes
    simp [Node.isCalled, this]
  exact ⟨task, htask, argument, hargument, name, n, other, hname,
    .of_nodup hgrown.identifiers hn hcalled,
    (Graph.nodeNamed?_eq_some_iff hgrown.identifiers).1 hother, heq⟩

end Script

/-- Names are looked up without ambiguity in every graph that changes make of one without tasks.
The steps of a builder and the reading of a script leave such graphs, and every edge that they add
by name joins the tasks that are meant. -/
theorem name_lookup_spec :
    (∀ g : Graph, g.Grown → g.NamesResolve) ∧
    (∀ b : Builder, b.graph.Grown → ∀ calls call,
      (b.takeAll calls).AddsByName call.relations ((b.takeAll calls).take call)) ∧
    ∀ text ids r, readScript text ids = .ok r → Script.ReadsByName text r :=
  ⟨fun _ h => Graph.namesResolve_of_nodup h.identifiers,
    fun _ h calls call => Builder.take_adds (Builder.grown_takeAll h calls) call,
    fun _ _ _ h => Script.reads_by_name h⟩

/-- A builder with a task whose name is not its identifier. -/
def withSpacedTask : Builder :=
  (Builder.start {} Graph.empty).takeAll [.addTask { name := "my task" }]

/-- A script with a task whose name is not its identifier, and one that names the identifier. -/
def spacedScript : String :=
  "tasks.register(\"my task\") \x7b \x7d\n" ++
    "tasks.register(\"pack\") \x7b dependsOn(\"my_task\") \x7d\n"

/-- A builder and a script that name a task by its identifier join the task to another one, whose
graph resolves names. -/
theorem name_lookup_spec_spaced :
    (let r := withSpacedTask.take (.addTask { name := "pack", dependsOn := ["my_task"] })
    Graph.empty.Grown ∧ r.1.graph.NamesResolve ∧
      withSpacedTask.AddsByName [⟨"my_task", "pack", .dependsOn⟩] r ∧
      r.1.graph.edges = [⟨"task_1", "task_2", .dependsOn⟩]) ∧
    ∃ r, readScript spacedScript {} = .ok r ∧ Script.ReadsByName spacedScript r ∧
      r.graph.edges = [⟨"task_my_task", "task_pack", .dependsOn⟩] := by
  obtain ⟨hresolve, hbuild, hread⟩ := name_lookup_spec
  have hadds := hbuild (Builder.start {} Graph.empty) Graph.grown_empty
    [.addTask { name := "my task" }] (.addTask { name := "pack", dependsOn := ["my_task"] })
  refine ⟨⟨Graph.grown_empty, hresolve _ hadds.grown, hadds, by decide +kernel⟩, ?_⟩
  have hedges : (readScript spacedScript {}).map (fun r => r.graph.edges) =
      .ok [⟨"task_my_task", "task_pack", .dependsOn⟩] := by decide +kernel
  cases hr : readScript spacedScript {} with
  | error stop =>
      rw [hr] at hedges
      cases hedges
  | ok r =>
      rw [hr] at hedges
      exact ⟨r, rfl, hread _ _ _ hr, Except.ok.inj hedges⟩

end Scripts

end BuildGraph
