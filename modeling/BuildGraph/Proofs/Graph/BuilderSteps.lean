import BuildGraph.Document.Edit
import BuildGraph.Proofs.Graph.Accepted
import BuildGraph.Proofs.Text.Identifier

/-!
# Refused steps of a builder

A `Call` is any step of a `Builder` with its arguments. Most steps make one change of the graph, so
a refused one leaves the graph as it was. The addition of a task makes several, and what it did
before it was refused stays: `PartlyAdded` says what that is.
-/

namespace BuildGraph

namespace Builder

open BuildGraph.Text

/-- A step of a builder with its arguments. -/
inductive Call where
  | addTask (spec : TaskSpec)
  | connect (source target : String) (relation : Relation)
  | dependsOn (name upstream : String)
  | mustRunAfter (name other : String)
  | shouldRunAfter (name other : String)
  | finalizedBy (name finalizer : String)
  | addGroup (name : String) (members : List String) (color : String) (description : Option String)
  | addVariable (name defaultValue : String) (type : ValueType) (value description : Option String)

/-- Takes a step. -/
def take (b : Builder) : Call → Result
  | .addTask spec => b.addTask spec
  | .connect source target relation => b.connect source target relation
  | .dependsOn name upstream => b.connect upstream name .dependsOn
  | .mustRunAfter name other => b.connect other name .mustRunAfter
  | .shouldRunAfter name other => b.connect other name .shouldRunAfter
  | .finalizedBy name finalizer => b.connect name finalizer .finalizedBy
  | .addGroup name members color description => b.addGroup name members color description
  | .addVariable name defaultValue type value description =>
      b.addVariable name defaultValue type value description

/-- The builder with one more edge. -/
def withEdges (b : Builder) (edges : List Edge) : Builder :=
  { b with graph := { b.graph with edges := b.graph.edges ++ edges } }

/-- The builder after the id of a task was issued and its node was added, if that is not refused. -/
def enter (b : Builder) (spec : TaskSpec) : Result :=
  let (id, b) := b.issue "task"
  b.put ((nodeOf id spec).bind b.graph.addNode)

/-- What is left of a task whose node was added and one of whose dependencies was refused: its node,
with an edge from each dependency before the refused one, as if it had no more than these. -/
def PartlyAdded (b left : Builder) (spec : TaskSpec) (cause : BuilderError) : Prop :=
  ∃ done upstream rest n sources, spec.dependsOn = done ++ upstream :: rest ∧
    b.addTask { spec with dependsOn := done } = (left, .ok ()) ∧
    left.connect upstream spec.name .dependsOn = (left, .error cause) ∧
    nodeOf (b.ids.next "task").1 spec = .ok n ∧ done.mapM left.nodeId = .ok sources ∧
    left.graph = { b.graph with
      nodes := b.graph.nodes ++ [n]
      edges := b.graph.edges ++ sources.map fun source => ⟨source, n.id, .dependsOn⟩ }

variable {b left : Builder} {name source target : String} {relation : Relation} {spec : TaskSpec}
  {cause : BuilderError} {u : Unit}

@[simp] theorem issue_graph (b : Builder) (lead : String) : (b.issue lead).2.graph = b.graph := rfl

/-- Names are looked up among the nodes alone. -/
theorem node_id_with_edges (b : Builder) (edges : List Edge) :
    (b.withEdges edges).nodeId = b.nodeId := rfl

@[simp] theorem with_edges_nil (b : Builder) : b.withEdges [] = b := by
  simp [withEdges]

@[simp] theorem with_edges_with_edges (b : Builder) (edges more : List Edge) :
    (b.withEdges edges).withEdges more = b.withEdges (edges ++ more) := by
  simp [withEdges]

theorem put_ok {change : Except GraphError Graph} (h : b.put change = (left, .ok u)) :
    ∃ graph, change = .ok graph ∧ left = { b with graph } := by
  cases change with
  | ok graph =>
      cases h
      exact ⟨graph, rfl, rfl⟩
  | error _ => cases h

/-- A refused change leaves the builder as it was. -/
theorem put_error {change : Except GraphError Graph} (h : b.put change = (left, .error cause)) :
    left = b := by
  cases change with
  | ok _ => cases h
  | error _ =>
      cases h
      rfl

/-- Two tasks are joined when both names stand for one and the edge is accepted. -/
theorem connect_ok (h : b.connect source target relation = (left, .ok u)) :
    ∃ sourceId targetId, b.nodeId source = .ok sourceId ∧ b.nodeId target = .ok targetId ∧
      left = b.withEdges [⟨sourceId, targetId, relation⟩] := by
  rw [connect] at h
  cases hsource : b.nodeId source with
  | error _ => simp [hsource] at h
  | ok sourceId =>
      cases htarget : b.nodeId target with
      | error _ => simp [hsource, htarget] at h
      | ok targetId =>
          simp only [hsource, htarget] at h
          obtain ⟨graph, hadded, rfl⟩ := put_ok h
          obtain ⟨-, -, -, rfl⟩ := Graph.add_edge_eq_ok_iff.1 hadded
          exact ⟨sourceId, targetId, rfl, rfl, rfl⟩

theorem connect_error (h : b.connect source target relation = (left, .error cause)) : left = b := by
  rw [connect] at h
  cases hsource : b.nodeId source with
  | error _ =>
      simp only [hsource, Prod.mk.injEq] at h
      exact h.1.symm
  | ok sourceId =>
      cases htarget : b.nodeId target with
      | error _ =>
          simp only [hsource, htarget, Prod.mk.injEq] at h
          exact h.1.symm
      | ok targetId =>
          simp only [hsource, htarget] at h
          exact put_error h

/-- Accepted dependencies are edges to the task, one for each of them. -/
theorem depend_on_all_ok {upstreams : List String} {targetId : String}
    (hname : b.nodeId name = .ok targetId) (h : b.dependOnAll name upstreams = (left, .ok u)) :
    ∃ sources, upstreams.mapM b.nodeId = .ok sources ∧
      left = b.withEdges (sources.map fun source => ⟨source, targetId, .dependsOn⟩) := by
  induction upstreams generalizing b with
  | nil =>
      cases h
      exact ⟨[], rfl, by simp⟩
  | cons upstream rest ih =>
      rw [dependOnAll] at h
      split at h
      · next joined hconnect =>
          obtain ⟨sourceId, _, hsource, hid, rfl⟩ := connect_ok hconnect
          obtain rfl := Except.ok.inj (hname.symm.trans hid)
          obtain ⟨sources, hsources, rfl⟩ := ih (b := b.withEdges _) hname h
          rw [node_id_with_edges] at hsources
          refine ⟨sourceId :: sources, ?_, by simp⟩
          rw [List.mapM_cons, hsource, hsources]
          rfl
      · cases h

/-- Dependencies are accepted up to the first that is refused, and the rest is not looked at. -/
theorem depend_on_all_error {upstreams : List String}
    (h : b.dependOnAll name upstreams = (left, .error cause)) :
    ∃ done upstream rest, upstreams = done ++ upstream :: rest ∧
      b.dependOnAll name done = (left, .ok ()) ∧
      left.connect upstream name .dependsOn = (left, .error cause) := by
  induction upstreams generalizing b with
  | nil => cases h
  | cons upstream rest ih =>
      rw [dependOnAll] at h
      split at h
      · next joined hconnect =>
          obtain ⟨done, refused, more, rfl, hdone, hrefused⟩ := ih h
          refine ⟨upstream :: done, refused, more, rfl, ?_, hrefused⟩
          rw [dependOnAll, hconnect]
          exact hdone
      · next joined found hconnect =>
          cases h
          obtain rfl := connect_error hconnect
          exact ⟨[], upstream, rest, rfl, rfl, hconnect⟩

/-- A node has the id and the name that its task is to have. -/
theorem node_of_ok {id : String} {n : Node} (h : nodeOf id spec = .ok n) :
    n.id = id ∧ n.name = spec.name := by
  simp only [nodeOf] at h
  split at h <;> cases h
  exact ⟨rfl, rfl⟩

/-- The name of an added node stands for that node: no other one has the name, and none has it as
its identifier, since an identifier is its own identifier. -/
theorem node_named_added {g g' : Graph} {n : Node} (h : g.addNode n = .ok g') :
    g'.nodeNamed? n.name = some n := by
  obtain ⟨-, -, hfree, rfl⟩ := Graph.add_node_eq_ok_iff.1 h
  have hnone : (g.nodes.find? fun m => m.name == n.name || m.identifier == n.name) = none := by
    refine List.find?_eq_none.2 fun m hm hnamed => ?_
    simp only [Bool.or_eq_true, beq_iff_eq] at hnamed
    rcases hnamed with heq | heq
    · exact hfree m hm (by rw [Node.identifier, heq, Node.identifier])
    · refine hfree m hm ?_
      rw [Node.identifier.eq_def n, ← heq, Node.identifier, to_identifier_to_identifier]
  simp [Graph.nodeNamed?, hnone]

/-- A task is entered when its settings suit its kind and its node is accepted. -/
theorem enter_ok (h : b.enter spec = (left, .ok u)) :
    ∃ n, nodeOf (b.ids.next "task").1 spec = .ok n ∧ left.nodeId spec.name = .ok n.id ∧
      left.graph = { b.graph with nodes := b.graph.nodes ++ [n] } := by
  obtain ⟨graph, hchange, rfl⟩ := put_ok (b := (b.issue "task").2) h
  obtain ⟨n, hnode, hadded⟩ := bind_eq_ok_iff.1 hchange
  have hnamed := node_named_added hadded
  rw [(node_of_ok hnode).2] at hnamed
  exact ⟨n, hnode, by simp [nodeId, hnamed], (Graph.add_node_eq_ok_iff.1 hadded).2.2.2⟩

theorem enter_error (h : b.enter spec = (left, .error cause)) : left.graph = b.graph := by
  rw [put_error (b := (b.issue "task").2) h, issue_graph]

/-- A task is added by entering it and letting it depend on others. -/
theorem add_task_eq (b : Builder) (spec : TaskSpec) :
    b.addTask spec = match b.enter spec with
      | (entered, .ok ()) => entered.dependOnAll spec.name spec.dependsOn
      | refused => refused := rfl

/-- A refused addition of a task leaves the graph as it was if the node is refused, and part of the
task otherwise. -/
theorem add_task_error (h : b.addTask spec = (left, .error cause)) :
    left.graph = b.graph ∨ PartlyAdded b left spec cause := by
  rw [add_task_eq] at h
  split at h
  · next entered hentered =>
      obtain ⟨n, hnode, hname, hgraph⟩ := enter_ok hentered
      obtain ⟨done, upstream, rest, hsplit, hdone, hrefused⟩ := depend_on_all_error h
      obtain ⟨sources, hsources, rfl⟩ := depend_on_all_ok hname hdone
      refine .inr ⟨done, upstream, rest, n, sources, hsplit, ?_, hrefused, hnode, hsources, ?_⟩
      · -- the node does not depend on which dependencies are named
        have hshort : b.enter { spec with dependsOn := done } = b.enter spec := rfl
        rw [add_task_eq, hshort, hentered]
        exact hdone
      · simp [withEdges, hgraph]
  · exact .inl (enter_error h)

theorem add_group_error {members : List String} {color : String} {description : Option String}
    (h : b.addGroup name members color description = (left, .error cause)) :
    left.graph = b.graph := by
  rw [addGroup] at h
  dsimp only at h
  split at h
  · cases h
    exact issue_graph b "group"
  · rw [put_error h, issue_graph]

theorem add_variable_error {defaultValue : String} {type : ValueType}
    {value description : Option String}
    (h : b.addVariable name defaultValue type value description = (left, .error cause)) :
    left.graph = b.graph := by
  rw [put_error (b := (b.issue "var").2) h, issue_graph]

/-- What a step that a document asks for does: it is refused for its arguments with the graph as it
was, or it is a call. -/
def Performs (b : Builder) (done : Builder.Step) : Prop :=
  (∃ e, done.2 = .error e ∧ done.1.graph = b.graph) ∨ ∃ call, done = finish (b.take call)

theorem add_task_by_performs (b : Builder) (d : Document) : Performs b (b.addTaskBy d) := by
  unfold addTaskBy
  split
  · exact .inl ⟨_, rfl, rfl⟩
  · split
    · exact .inl ⟨_, rfl, rfl⟩
    · split
      · exact .inl ⟨_, rfl, rfl⟩
      · exact .inr ⟨.addTask _, rfl⟩

theorem connect_by_performs (b : Builder) (d : Document) : Performs b (b.connectBy d) := by
  unfold connectBy
  split
  · exact .inr ⟨.connect _ _ _, rfl⟩
  · dsimp only
    split <;> exact .inl ⟨_, rfl, rfl⟩

theorem add_variable_by_performs (b : Builder) (d : Document) :
    Performs b (b.addVariableBy d) := by
  unfold addVariableBy
  split
  · exact .inl ⟨_, rfl, rfl⟩
  · split
    · exact .inl ⟨_, rfl, rfl⟩
    · exact .inr ⟨.addVariable _ _ _ _ _, rfl⟩

theorem perform_performs (b : Builder) (method : String) (d : Document) :
    Performs b (b.perform method d) := by
  unfold perform
  split
  · exact add_task_by_performs b d
  · split
    · exact add_variable_by_performs b d
    · split
      · exact .inl ⟨_, rfl, rfl⟩
      · dsimp only
        split_ifs
        · exact connect_by_performs b d
        · exact .inr ⟨.dependsOn _ _, rfl⟩
        · exact .inr ⟨.mustRunAfter _ _, rfl⟩
        · exact .inr ⟨.shouldRunAfter _ _, rfl⟩
        · exact .inr ⟨.finalizedBy _ _, rfl⟩
        · exact .inr ⟨.addGroup _ _ _ _, rfl⟩

/-- A refused step leaves the graph as it was, unless it adds a task whose node is accepted and one
of whose dependencies is refused; then the node stays, with its edges from the dependencies before
that one. This goes for steps with their arguments and for steps that a document asks for. -/
theorem refused_step_spec (b : Builder) :
    (∀ call left cause, b.take call = (left, .error cause) →
      left.graph = b.graph ∨ ∃ spec, call = .addTask spec ∧ PartlyAdded b left spec cause) ∧
    ∀ method d, Performs b (b.perform method d) := by
  refine ⟨fun call left cause h => ?_, perform_performs b⟩
  cases call with
  | addTask spec => exact (add_task_error h).imp_right fun hpart => ⟨spec, rfl, hpart⟩
  | connect | dependsOn | mustRunAfter | shouldRunAfter | finalizedBy =>
      exact .inl (congrArg graph (connect_error h))
  | addGroup => exact .inl (add_group_error h)
  | addVariable => exact .inl (add_variable_error h)

/-- A builder with one task. -/
def withTask : Builder := ((start {} Graph.empty).addTask { name := "compile" }).1

/-- A task that depends on a known one and then on an unknown one stays with the edge from the
known one; a step that joins the known one to an unknown one changes nothing. -/
theorem refused_step_spec_unknown :
    (let spec : TaskSpec := { name := "test", dependsOn := ["compile", "deploy"] }
    let left := (withTask.take (.addTask spec)).1
    PartlyAdded withTask left spec (.unknownTask "deploy") ∧
      left.graph.edges = [⟨"task_1", "task_2", .dependsOn⟩]) ∧
    (withTask.take (.mustRunAfter "compile" "deploy")).1.graph = withTask.graph := by
  obtain ⟨hsteps, -⟩ := refused_step_spec withTask
  refine ⟨⟨?_, by decide +kernel⟩, ?_⟩
  · rcases hsteps (.addTask { name := "test", dependsOn := ["compile", "deploy"] }) _
      (.unknownTask "deploy") (Prod.ext rfl (by decide +kernel)) with hsame | ⟨spec, hcall, hpart⟩
    · exact absurd hsame (by decide +kernel)
    · cases hcall
      exact hpart
  · rcases hsteps (.mustRunAfter "compile" "deploy") _ (.unknownTask "deploy")
      (Prod.ext rfl (by decide +kernel)) with hsame | ⟨spec, hcall, -⟩
    · exact hsame
    · cases hcall

/-- A task that names one dependency twice is refused for the second edge, and the task and the
first edge stay. -/
theorem refused_task_stays :
    let call : Call := .addTask { name := "test", dependsOn := ["compile", "compile"] }
    (withTask.take call).2 = .error (.graph (.duplicateEdge "task_1" "task_2" "dependsOn")) ∧
      (withTask.take call).1.graph ≠ withTask.graph := by
  decide +kernel

end Builder

end BuildGraph
