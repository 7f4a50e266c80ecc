import BuildGraph.Proofs.Graph.BuilderSteps
import BuildGraph.Proofs.Ids

/-!
# Ids of what a builder adds

A builder starts with the ids of its graph taken, and whatever it adds bears an id that was issued
for it. So the ids of the graph are among the taken ones at any time (`Builder.Knows`), and no step
is refused because of an id that is there already (`Builder.Knows.take`). Others may use the same
generator between two steps (`Builder.Lives`).
-/

namespace BuildGraph

/-- The refusal says that an id is there already. -/
def GraphError.IsIdTaken (cause : GraphError) : Prop :=
  ∃ id, cause = .nodeIdTaken id ∨ cause = .groupIdTaken id ∨ cause = .variableIdTaken id

/-- The ids of nodes, groups and variables. -/
def Graph.ids (g : Graph) : List String :=
  g.nodeIds ++ g.groups.map Group.id ++ g.vars.map Variable.id

section Refusals

variable {α β : Type}

/-- A change is not refused because of an id that is there already. -/
def Clears (x : Except GraphError α) : Prop := ∀ cause, x = .error cause → ¬ cause.IsIdTaken

variable {x y : Except GraphError α} {f : β → Except GraphError α} {p : Prop} [Decidable p]
  {cause : GraphError}

theorem clears_ok (a : α) : Clears (.ok a : Except GraphError α) := by
  intro cause h
  cases h

theorem clears_error (h : ¬ cause.IsIdTaken) : Clears (.error cause : Except GraphError α) := by
  intro other heq
  cases heq
  exact h

theorem Clears.bind {x : Except GraphError β} (hx : Clears x)
    (hf : ∀ b, x = .ok b → Clears (f b)) : Clears (x >>= f) := by
  cases x with
  | ok b => exact hf b rfl
  | error cause => exact clears_error (hx cause rfl)

/-- A check may refuse for another reason, or because of an id that is not there. -/
theorem Clears.check (hrefused : p → ¬ cause.IsIdTaken) (hx : Clears x) :
    Clears (if p then throw cause >>= f else x) := by
  split_ifs with hp
  · exact clears_error (hrefused hp)
  · exact hx

end Refusals

namespace Graph

variable {g g' : Graph}

theorem clears_getNode (g : Graph) (id : String) : Clears (g.getNode id) := by
  rw [getNode]
  split
  · exact clears_ok _
  · exact clears_error (by simp [GraphError.IsIdTaken])

theorem clears_getGroup (g : Graph) (id : String) : Clears (g.getGroup id) := by
  rw [getGroup]
  split
  · exact clears_ok _
  · exact clears_error (by simp [GraphError.IsIdTaken])

theorem clears_requireValue (v : Variable) (value : String) : Clears (requireValue v value) := by
  rw [requireValue]
  split
  · exact clears_ok _
  · exact clears_error (by simp [GraphError.IsIdTaken])

theorem clears_assignToGroup (g : Graph) (id : String) (nodeIds : List String) :
    Clears (g.assignToGroup id nodeIds) := by
  have hfound : ∀ ids : List String,
      Clears (ids.forM fun nodeId => do let _ ← g.getNode nodeId) := by
    intro ids
    induction ids with
    | nil => exact clears_ok _
    | cons id ids ih =>
        rw [List.forM_eq_forM, List.forM_cons]
        exact ((g.clears_getNode id).bind fun _ _ => clears_ok _).bind fun _ _ => ih
  exact (g.clears_getGroup id).bind fun _ _ => (hfound _).bind fun _ _ => clears_ok _

theorem clears_addEdge (g : Graph) (source target : String) (relation : Relation) :
    Clears (g.addEdge source target relation) := by
  refine (g.clears_getNode source).bind fun _ _ => (g.clears_getNode target).bind fun _ _ => ?_
  split
  · exact clears_error (by simp [GraphError.IsIdTaken])
  · exact clears_error (by simp [GraphError.IsIdTaken])
  · exact clears_error (by simp [GraphError.IsIdTaken])
  · exact clears_ok _

theorem clears_addNode {n : Node} (hid : n.id ∉ g.ids) : Clears (g.addNode n) := by
  have hfree : g.hasNode n.id ≠ true := fun hmem => hid (by simp [ids, has_node_iff.1 hmem])
  have hidentifier : Clears (g.requireIdentifierFree n none) := by
    rw [requireIdentifierFree]
    split_ifs
    · exact clears_error (by simp [GraphError.IsIdTaken])
    · exact clears_ok _
  unfold addNode
  exact .check (fun hmem => absurd hmem hfree) (.check (fun _ => by simp [GraphError.IsIdTaken])
    (hidentifier.bind fun _ _ => clears_ok _))

theorem clears_addGroup {group : Group} (hid : group.id ∉ g.ids) : Clears (g.addGroup group) := by
  have hfree : ¬ (g.groups.any fun other => other.id == group.id) = true := by
    intro hany
    obtain ⟨other, hother, heq⟩ := List.any_eq_true.1 hany
    have hmem : other.id ∈ g.groups.map Group.id := List.mem_map_of_mem hother
    rw [beq_iff_eq.1 heq] at hmem
    exact hid (by simp [ids, hmem])
  have hname : Clears (g.requireGroupName group.name none) := by
    rw [requireGroupName]
    split
    · exact clears_ok _
    · exact clears_error (by simp [GraphError.IsIdTaken])
    · exact clears_error (by simp [GraphError.IsIdTaken])
  unfold addGroup
  refine .check (fun hany => absurd hany hfree) (hname.bind fun _ _ => ?_)
  dsimp only
  split_ifs
  · exact clears_ok _
  · exact clears_assignToGroup _ _ _

theorem clears_addVariable {v : Variable} (hid : v.id ∉ g.ids) : Clears (g.addVariable v) := by
  have hfree : ¬ (g.vars.any fun other => other.id == v.id) = true := by
    intro hany
    obtain ⟨other, hother, heq⟩ := List.any_eq_true.1 hany
    have hmem : other.id ∈ g.vars.map Variable.id := List.mem_map_of_mem hother
    rw [beq_iff_eq.1 heq] at hmem
    exact hid (by simp [ids, hmem])
  unfold addVariable
  refine .check (fun _ => by simp [GraphError.IsIdTaken])
    (.check (fun _ => by simp [GraphError.IsIdTaken]) (.check (fun hany => absurd hany hfree)
      ((clears_requireValue v v.defaultValue).bind fun _ _ => ?_)))
  dsimp only
  split
  · exact clears_ok _
  · exact (clears_requireValue v _).bind fun _ _ => clears_ok _

/-- What an accepted change adds brings its own id. -/
theorem ids_addNode {n : Node} (h : g.addNode n = .ok g') : g'.ids ⊆ n.id :: g.ids := by
  obtain ⟨-, -, -, rfl⟩ := add_node_eq_ok_iff.1 h
  intro id hid
  simp only [ids, nodeIds, List.map_append, List.mem_append, List.map_cons, List.map_nil,
    List.mem_cons] at hid ⊢
  tauto

theorem ids_addGroup {group : Group} (h : g.addGroup group = .ok g') :
    g'.ids ⊆ group.id :: g.ids := by
  obtain ⟨-, -, -, -, -, rfl⟩ := add_group_eq_ok_iff.1 h
  have hmoved : ∀ groups id moved,
      (movedGroups groups id moved).map Group.id = groups.map Group.id := by
    intro groups id moved
    simp [movedGroups, Function.comp_def]
  intro id hid
  simp only [ids, nodeIds, hmoved, List.map_append, List.mem_append, List.map_cons, List.map_nil,
    List.mem_cons] at hid ⊢
  tauto

theorem ids_addVariable {v : Variable} (h : g.addVariable v = .ok g') : g'.ids ⊆ v.id :: g.ids := by
  obtain ⟨-, -, -, -, rfl⟩ := add_variable_eq_ok_iff.1 h
  intro id hid
  simp only [ids, nodeIds, List.map_append, List.mem_append, List.map_cons, List.map_nil,
    List.mem_cons] at hid ⊢
  tauto

theorem ids_addEdge {source target : String} {relation : Relation}
    (h : g.addEdge source target relation = .ok g') : g'.ids = g.ids := by
  obtain ⟨-, -, -, rfl⟩ := add_edge_eq_ok_iff.1 h
  rfl

end Graph

namespace Builder

/-- The labels of the generator are distinct, and the ids of the graph are taken. -/
structure Knows (b : Builder) : Prop where
  labels : Function.Injective b.ids.label
  taken : b.graph.ids ⊆ b.ids.issued

/-- A step leaves the ids of the graph taken, and is not refused because of one of them. -/
structure Fine (r : Result) : Prop where
  knows : r.1.Knows
  clears : ∀ cause, r.2 = .error (.graph cause) → ¬ cause.IsIdTaken

/-- The states of a builder whose generator is used by others as well. -/
inductive Lives (ids : IdGenerator) (graph : Graph) : Builder → Prop
  | start : Lives ids graph (start ids graph)
  | taken {b : Builder} (h : Lives ids graph b) (call : Call) : Lives ids graph (b.take call).1
  | elsewhere {b : Builder} (h : Lives ids graph b) (call : IdCall) :
      Lives ids graph { b with ids := (b.ids.answer call).2 }

variable {b : Builder} {name lead : String}

/-- An issued id is new, and counts as taken from then on. -/
theorem Knows.issue (h : b.Knows) (lead : String) :
    (b.issue lead).1 ∉ (b.issue lead).2.graph.ids ∧ (b.issue lead).2.Knows ∧
      (b.issue lead).1 ∈ (b.issue lead).2.ids.issued := by
  refine ⟨fun hmem => b.ids.next_fresh h.labels lead (h.taken hmem), ⟨h.labels, ?_⟩,
    List.mem_cons_self⟩
  exact List.subset_cons_of_subset _ h.taken

theorem fine_refused (h : b.Knows) {cause : BuilderError}
    (hcause : ∀ inner, cause = .graph inner → ¬ inner.IsIdTaken) : Fine (b, .error cause) where
  knows := h
  clears inner heq := hcause inner (by cases heq; rfl)

/-- A change is put in place. -/
theorem Knows.put (h : b.Knows) {change : Except GraphError Graph} (hclears : Clears change)
    (htaken : ∀ g, change = .ok g → g.ids ⊆ b.ids.issued) : Fine (b.put change) := by
  cases change with
  | ok g => exact ⟨⟨h.labels, htaken g rfl⟩, fun cause heq => by cases heq⟩
  | error cause =>
      exact fine_refused h fun inner heq => hclears inner (by cases heq; rfl)

theorem nodeId_error {cause : BuilderError} (h : b.nodeId name = .error cause) :
    ∀ inner, cause = .graph inner → ¬ inner.IsIdTaken := by
  rintro inner rfl
  rw [nodeId] at h
  split at h <;> cases h

theorem Knows.connect (h : b.Knows) (source target : String) (relation : Relation) :
    Fine (b.connect source target relation) := by
  rw [Builder.connect]
  split
  · next hsource => exact fine_refused h (nodeId_error hsource)
  · split
    · next htarget => exact fine_refused h (nodeId_error htarget)
    · exact h.put (b.graph.clears_addEdge _ _ _) fun g hg => Graph.ids_addEdge hg ▸ h.taken

theorem Knows.dependOnAll (h : b.Knows) (name : String) (upstreams : List String) :
    Fine (b.dependOnAll name upstreams) := by
  induction upstreams generalizing b with
  | nil => exact ⟨h, fun cause heq => by cases heq⟩
  | cons upstream rest ih =>
      have hconnect := h.connect upstream name .dependsOn
      rw [Builder.dependOnAll]
      split
      · next joined heq =>
          rw [heq] at hconnect
          exact ih hconnect.knows
      · next joined cause heq =>
          rw [heq] at hconnect
          exact hconnect

/-- A node is made with the id that was issued for it. -/
theorem clears_nodeOf (id : String) (spec : TaskSpec) : Clears (nodeOf id spec) := by
  unfold nodeOf
  dsimp only
  split
  · exact clears_error (by simp [GraphError.IsIdTaken])
  · exact clears_ok _

theorem Knows.enter (h : b.Knows) (spec : TaskSpec) : Fine (b.enter spec) := by
  obtain ⟨hfresh, hknows, hissued⟩ := h.issue "task"
  refine hknows.put ((clears_nodeOf _ spec).bind fun n hn => ?_) fun g hg => ?_
  · exact Graph.clears_addNode (by rwa [(node_of_ok hn).1])
  · obtain ⟨n, hn, hadded⟩ := bind_eq_ok_iff.1 hg
    refine List.Subset.trans (Graph.ids_addNode hadded) (List.cons_subset.2 ⟨?_, hknows.taken⟩)
    rwa [(node_of_ok hn).1]

theorem Knows.addTask (h : b.Knows) (spec : TaskSpec) : Fine (b.addTask spec) := by
  have hentered := h.enter spec
  rw [add_task_eq]
  split
  · next entered heq =>
      rw [heq] at hentered
      exact hentered.knows.dependOnAll _ _
  · exact hentered

theorem Knows.addGroup (h : b.Knows) (name : String) (members : List String) (color : String)
    (description : Option String) : Fine (b.addGroup name members color description) := by
  obtain ⟨hfresh, hknows, hissued⟩ := h.issue "group"
  rw [Builder.addGroup]
  dsimp only
  split
  · next cause hcause =>
      refine fine_refused hknows fun inner heq => ?_
      obtain ⟨member, -, hmember⟩ := exists_of_mapM_eq_error hcause
      exact nodeId_error hmember inner heq
  · exact hknows.put (Graph.clears_addGroup hfresh) fun g hg =>
      List.Subset.trans (Graph.ids_addGroup hg) (List.cons_subset.2 ⟨hissued, hknows.taken⟩)

theorem Knows.addVariable (h : b.Knows) (name default : String) (type : ValueType)
    (value description : Option String) :
    Fine (b.addVariable name default type value description) := by
  obtain ⟨hfresh, hknows, hissued⟩ := h.issue "var"
  exact hknows.put (Graph.clears_addVariable hfresh) fun g hg =>
    List.Subset.trans (Graph.ids_addVariable hg) (List.cons_subset.2 ⟨hissued, hknows.taken⟩)

/-- No step is refused because of an id that is there already. -/
theorem Knows.take (h : b.Knows) (call : Call) : Fine (b.take call) := by
  cases call with
  | addTask spec => exact h.addTask spec
  | connect | dependsOn | mustRunAfter | shouldRunAfter | finalizedBy => exact h.connect _ _ _
  | addGroup => exact h.addGroup _ _ _ _
  | addVariable => exact h.addVariable _ _ _ _ _

/-- The ids of the graph are taken at any time, whoever else uses the generator. -/
theorem Lives.knows {ids : IdGenerator} {graph : Graph} (hlabels : Function.Injective ids.label)
    (h : Lives ids graph b) : b.Knows := by
  induction h with
  | start => exact ⟨hlabels, List.subset_append_left _ _⟩
  | taken _ call ih => exact (ih.take call).knows
  | elsewhere _ call ih =>
      refine ⟨(IdGenerator.answer_label _ call).symm ▸ ih.labels, fun id hid => ?_⟩
      exact (IdGenerator.mem_issued_answer _ call).2 (.inl (ih.taken hid))

end Builder

end BuildGraph
