import BuildGraph.Proofs.Graph.WellFormed
import BuildGraph.Proofs.Script.Whole

/-!
# Putting a graph together

What is found in a script becomes a graph when names are distinct: every variable is declared, every
block becomes a node under the id of its name, and every relation becomes an edge as long as edges
stay distinct and hard ones close no cycle.
-/

open Relation

namespace BuildGraph.Script

open BuildGraph.Text

variable {ids : IdGenerator} {r : ScriptReading} {f : Findings}

/-- An id that is free is issued as it is. -/
theorem unique_of_fresh {preferred : String} (h : preferred ∉ ids.issued) :
    ids.unique preferred = (preferred, { ids with issued := preferred :: ids.issued }) := by
  simp only [IdGenerator.unique, if_neg h]

section Variables

variable {vars : List Variable}

/-- The id that a script gives to a variable. -/
def variableId (name : String) : String := "var_" ++ name

/-- The variable that is found for a declared one. -/
def declared (v : Variable) : Variable where
  id := variableId v.name
  name := v.name
  defaultValue := v.defaultValue

theorem foldl_withVariable (hfresh : ∀ v ∈ vars, variableId v.name ∉ f.ids.issued)
    (hnodup : (vars.map Variable.name).Nodup) :
    vars.foldl (fun f v => withVariable v f) f = { f with
      vars := f.vars ++ vars.map declared
      ids := { f.ids with
        issued := (vars.map fun v => variableId v.name).reverse ++ f.ids.issued } } := by
  induction vars generalizing f with
  | nil => simp
  | cons v vars ih =>
      obtain ⟨hv, hfresh⟩ := List.forall_mem_cons.1 hfresh
      obtain ⟨hnew, hnodup⟩ := List.nodup_cons.1 hnodup
      have hstep : withVariable v f = { f with
          vars := f.vars ++ [declared v]
          ids := { f.ids with issued := variableId v.name :: f.ids.issued } } := by
        simp only [withVariable]
        rw [show ("var_" ++ v.name) = variableId v.name from rfl, unique_of_fresh hv]
        rfl
      have hrest : ∀ w ∈ vars, variableId w.name ∉ (withVariable v f).ids.issued := by
        intro w hw hmem
        rw [hstep] at hmem
        rcases List.mem_cons.1 hmem with heq | hmem
        · have hname : w.name = v.name := by
            simpa [variableId] using heq
          exact hnew (hname ▸ List.mem_map_of_mem hw)
        · exact hfresh w hw hmem
      rw [List.foldl_cons, ih hrest hnodup, hstep]
      simp

/-- Variables with new names and new ids are all declared. -/
theorem declareVariables_eq (hnamed : ∀ v ∈ vars, isVariableName v.name = true ∧ Graph.fits v)
    (hnames : ((r.graph.vars ++ vars).map Variable.name).Nodup)
    (hids : ((r.graph.vars ++ vars).map Variable.id).Nodup) :
    declareVariables vars r =
      { r with graph := { r.graph with vars := r.graph.vars ++ vars } } := by
  induction vars generalizing r with
  | nil => simp [declareVariables]
  | cons v vars ih =>
      obtain ⟨⟨hname, hfits⟩, hnamed⟩ := List.forall_mem_cons.1 hnamed
      have hfree : ∀ {β : Type} (key : Variable → β), ((r.graph.vars ++ v :: vars).map key).Nodup →
          ∀ other ∈ r.graph.vars, key other ≠ key v := by
        intro β key hnodup other hother
        rw [List.map_append] at hnodup
        exact (List.nodup_append.1 hnodup).2.2 _ (List.mem_map_of_mem hother) _ (by simp)
      have hadd : r.graph.addVariable v =
          .ok { r.graph with vars := r.graph.vars ++ [v] } :=
        Graph.add_variable_eq_ok_iff.2 ⟨hname, hfree _ hnames, hfree _ hids, hfits, rfl⟩
      rw [declareVariables, hadd]
      simp only
      rw [ih hnamed (by simpa using hnames) (by simpa using hids)]
      simp

end Variables

section Nodes

variable {blocks : List Block}

/-- The id that a script gives to a task. -/
def taskId (name : String) : String := "task_" ++ name

theorem taskId_injective {a b : String} (h : taskId a = taskId b) : a = b := by
  simpa [taskId] using h

/-- The node that is made of a block. -/
def blockNode (b : Block) : Node := b.toNode (taskId b.name)

/-- A block with a new identifier for a name becomes a node. -/
theorem add_blockNode {g : Graph} {b : Block} (hname : toIdentifier b.name = b.name)
    (hblank : isBlankText b.name = false) (hnodes : ∀ n ∈ g.nodes, n.id = taskId n.identifier)
    (hnew : ∀ n ∈ g.nodes, n.identifier ≠ b.name) :
    g.addNode (blockNode b) = .ok { g with nodes := g.nodes ++ [blockNode b] } := by
  have hidentifier : (blockNode b).identifier = b.name := hname
  refine Graph.add_node_eq_ok_iff.2 ⟨fun hmem => ?_, hblank, ?_, rfl⟩
  · obtain ⟨other, hother, heq⟩ := List.mem_map.1 hmem
    rw [hnodes other hother] at heq
    exact hnew other hother (taskId_injective heq)
  · rwa [hidentifier]

/-- Blocks with distinct identifiers for names all become nodes. -/
theorem addNodes_eq
    (hnamed : ∀ b ∈ blocks, toIdentifier b.name = b.name ∧ isBlankText b.name = false)
    (hfresh : ∀ b ∈ blocks, taskId b.name ∉ ids.issued)
    (hnodes : ∀ n ∈ r.graph.nodes, n.id = taskId n.identifier)
    (hnodup : (r.graph.nodes.map Node.identifier ++ blocks.map Block.name).Nodup) :
    addNodes blocks ids r =
      ({ r with graph := { r.graph with nodes := r.graph.nodes ++ blocks.map blockNode } },
        blocks.map fun b => (b, blockNode b)) := by
  induction blocks generalizing r ids with
  | nil => simp [addNodes]
  | cons b blocks ih =>
      obtain ⟨⟨hname, hblank⟩, hnamed⟩ := List.forall_mem_cons.1 hnamed
      obtain ⟨hb, hfresh⟩ := List.forall_mem_cons.1 hfresh
      have hidentifier : (blockNode b).identifier = b.name := hname
      have hadd := add_blockNode hname hblank hnodes fun other hother =>
        (List.nodup_append.1 hnodup).2.2 _ (List.mem_map_of_mem hother) _ (by simp)
      have hnode : b.toNode (taskId b.name) = blockNode b := rfl
      rw [addNodes, hname, show "task_" ++ b.name = taskId b.name from rfl, unique_of_fresh hb]
      simp only [hnode, hadd]
      have hlater : ∀ c ∈ blocks, taskId c.name ∉ taskId b.name :: ids.issued := by
        intro c hc hmem
        rcases List.mem_cons.1 hmem with heq | hmem
        · have hdistinct := (List.nodup_append.1 hnodup).2.1
          rw [List.map_cons, List.nodup_cons] at hdistinct
          exact hdistinct.1 (taskId_injective heq ▸ List.mem_map_of_mem hc)
        · exact hfresh c hc hmem
      have hids : ∀ n ∈ r.graph.nodes ++ [blockNode b], n.id = taskId n.identifier := by
        refine List.forall_mem_append.2 ⟨hnodes, List.forall_mem_singleton.2 ?_⟩
        rw [hidentifier]
        rfl
      rw [ih hnamed hlater hids (by simpa [hidentifier] using hnodup)]
      simp

end Nodes

section Edges

/-- The edge that is made of a relation of a task to the task of a name. -/
def relationEdge (task : String) (relation : Relation × String) : Edge :=
  if relation.1 = .finalizedBy then ⟨taskId task, taskId relation.2, relation.1⟩
  else ⟨taskId relation.2, taskId task, relation.1⟩

/-- Every node has its identifier for a name, and the id of it. -/
def NamedByScript (nodes : List Node) : Prop :=
  ∀ n ∈ nodes, n.name = n.identifier ∧ n.id = taskId n.identifier

theorem nodeNamed?_eq {g : Graph} (hnodes : NamedByScript g.nodes) {name : String}
    (hname : name ∈ g.nodes.map Node.identifier) :
    ∃ n, g.nodeNamed? name = some n ∧ n.id = taskId name := by
  obtain ⟨m, hm, rfl⟩ := List.mem_map.1 hname
  have hsome : (g.nodeNamed? m.identifier).isSome := by
    rw [Graph.nodeNamed?, List.find?_isSome]
    exact ⟨m, hm, by simp⟩
  obtain ⟨n, hn⟩ := Option.isSome_iff_exists.1 hsome
  have hmem := List.mem_of_find?_eq_some hn
  have hfound := List.find?_some hn
  simp only [(hnodes n hmem).1, Bool.or_self, beq_iff_eq] at hfound
  exact ⟨n, hn, by rw [(hnodes n hmem).2, hfound]⟩

theorem taskId_mem_nodeIds {g : Graph} (hnodes : NamedByScript g.nodes) {name : String}
    (hname : name ∈ g.nodes.map Node.identifier) : taskId name ∈ g.nodeIds := by
  obtain ⟨n, hn, rfl⟩ := List.mem_map.1 hname
  exact List.mem_map.2 ⟨n, hn, (hnodes n hn).2⟩

section Relations

variable {g : Graph} {b : Block} {relation : Relation × String}

/-- The edge of a relation joins two distinct tasks that are there. -/
theorem relationEdge_ends (hnodes : NamedByScript g.nodes)
    (hb : b.name ∈ g.nodes.map Node.identifier)
    (hmem : relation.2 ∈ g.nodes.map Node.identifier) (hne : relation.2 ≠ b.name)
    {source target : String} (hedge : relationEdge b.name relation = ⟨source, target, relation.1⟩) :
    source ∈ g.nodeIds ∧ target ∈ g.nodeIds ∧ source ≠ target := by
  have hself := taskId_mem_nodeIds hnodes hb
  have hother := taskId_mem_nodeIds hnodes hmem
  rw [relationEdge] at hedge
  split at hedge <;> obtain ⟨rfl, rfl, -⟩ := Edge.mk.inj hedge
  · exact ⟨hself, hother, fun heq => hne (taskId_injective heq).symm⟩
  · exact ⟨hother, hself, fun heq => hne (taskId_injective heq)⟩

/-- The edge of a relation is accepted when it is new and closes no cycle. -/
theorem add_relationEdge (hnodes : NamedByScript g.nodes)
    (hb : b.name ∈ g.nodes.map Node.identifier)
    (hmem : relation.2 ∈ g.nodes.map Node.identifier) (hne : relation.2 ≠ b.name)
    (hnew : relationEdge b.name relation ∉ g.edges)
    (hacyclic : ∀ id, ¬ TransGen (Order.Requires g.nodes
      (g.edges ++ [relationEdge b.name relation])) id id)
    {source target : String} (hedge : relationEdge b.name relation = ⟨source, target, relation.1⟩) :
    g.addEdge source target relation.1 =
      .ok { g with edges := g.edges ++ [relationEdge b.name relation] } := by
  obtain ⟨hsource, htarget, hdistinct⟩ := relationEdge_ends hnodes hb hmem hne hedge
  refine Graph.add_edge_eq_ok_iff.2 ⟨hsource, htarget, ?_, by rw [hedge]⟩
  refine Graph.connection_fault_eq_none_iff.2 ⟨hdistinct, hedge ▸ hnew, fun hhard => ?_⟩
  rw [hedge, Order.isHard_iff.1 hhard] at hacyclic
  exact find_cycle_enabled_eq_none_iff.2 hacyclic

/-- A relation to another task that is there becomes an edge if this is new and closes no cycle. -/
theorem addRelation_eq (hnodes : NamedByScript r.graph.nodes)
    (hb : b.name ∈ r.graph.nodes.map Node.identifier)
    (hmem : relation.2 ∈ r.graph.nodes.map Node.identifier) (hne : relation.2 ≠ b.name)
    (hnew : relationEdge b.name relation ∉ r.graph.edges)
    (hacyclic : ∀ id, ¬ TransGen (Order.Requires r.graph.nodes
      (r.graph.edges ++ [relationEdge b.name relation])) id id) :
    addRelation b (blockNode b) r relation = { r with graph := { r.graph with
      edges := r.graph.edges ++ [relationEdge b.name relation] } } := by
  obtain ⟨other, hother, hid⟩ := nodeNamed?_eq hnodes hmem
  have hself : (blockNode b).id = taskId b.name := rfl
  rw [addRelation, hother]
  simp only [hid, hself]
  by_cases hfinal : relation.1 = .finalizedBy
  · rw [if_pos hfinal, add_relationEdge hnodes hb hmem hne hnew hacyclic
      (by rw [relationEdge, if_pos hfinal])]
  · rw [if_neg hfinal, add_relationEdge hnodes hb hmem hne hnew hacyclic
      (by rw [relationEdge, if_neg hfinal])]

end Relations

/-- Relations to tasks that are there become edges as long as edges stay distinct, join distinct
tasks and close no cycle. -/
theorem foldl_addRelation {b : Block} {relations : List (Relation × String)}
    (hnodes : NamedByScript r.graph.nodes) (hb : b.name ∈ r.graph.nodes.map Node.identifier)
    (hrelations : ∀ relation ∈ relations,
      relation.2 ∈ r.graph.nodes.map Node.identifier ∧ relation.2 ≠ b.name)
    (hnodup : (r.graph.edges ++ relations.map (relationEdge b.name)).Nodup)
    (hacyclic : ∀ id, ¬ TransGen (Order.Requires r.graph.nodes
      (r.graph.edges ++ relations.map (relationEdge b.name))) id id) :
    relations.foldl (addRelation b (blockNode b)) r = { r with graph := { r.graph with
      edges := r.graph.edges ++ relations.map (relationEdge b.name) } } := by
  induction relations generalizing r with
  | nil => simp
  | cons relation relations ih =>
      obtain ⟨⟨hmem, hne⟩, hrelations⟩ := List.forall_mem_cons.1 hrelations
      rw [List.map_cons, ← List.singleton_append, ← List.append_assoc] at hnodup hacyclic
      have hnew : relationEdge b.name relation ∉ r.graph.edges := fun hedge =>
        (List.nodup_append.1 (List.nodup_append.1 hnodup).1).2.2 _ hedge _ (by simp) rfl
      -- a cycle through the edges so far would be one through all of them
      have hsofar : ∀ id, ¬ TransGen (Order.Requires r.graph.nodes
          (r.graph.edges ++ [relationEdge b.name relation])) id id :=
        acyclic_of_subset (fun _ _ hedge => List.mem_append_left _ hedge) (fun _ h => h) hacyclic
      have hrest := ih (r := { r with graph := { r.graph with
        edges := r.graph.edges ++ [relationEdge b.name relation] } }) hnodes hb hrelations hnodup
        hacyclic
      rw [List.foldl_cons, addRelation_eq hnodes hb hmem hne hnew hsofar, hrest]
      simp

/-- The edges that are made of the relations of a block. -/
def edgesOfBlock (b : Block) : List Edge := b.relations.map (relationEdge b.name)

/-- The relations of all blocks become edges, block by block. -/
theorem foldl_blocks {blocks : List Block} (hnodes : NamedByScript r.graph.nodes)
    (hblocks : ∀ b ∈ blocks, b.name ∈ r.graph.nodes.map Node.identifier)
    (hrelations : ∀ b ∈ blocks, ∀ relation ∈ b.relations,
      relation.2 ∈ r.graph.nodes.map Node.identifier ∧ relation.2 ≠ b.name)
    (hnodup : (r.graph.edges ++ blocks.flatMap edgesOfBlock).Nodup)
    (hacyclic : ∀ id, ¬ TransGen (Order.Requires r.graph.nodes
      (r.graph.edges ++ blocks.flatMap edgesOfBlock)) id id) :
    (blocks.map fun b => (b, blockNode b)).foldl
        (fun r b => b.1.relations.foldl (addRelation b.1 b.2) r) r =
      { r with graph := { r.graph with
        edges := r.graph.edges ++ blocks.flatMap edgesOfBlock } } := by
  induction blocks generalizing r with
  | nil => simp
  | cons b blocks ih =>
      obtain ⟨hb, hblocks⟩ := List.forall_mem_cons.1 hblocks
      obtain ⟨hrelation, hrelations⟩ := List.forall_mem_cons.1 hrelations
      rw [List.flatMap_cons, ← List.append_assoc] at hnodup hacyclic
      have hfirst := foldl_addRelation hnodes hb hrelation (List.nodup_append.1 hnodup).1
        (acyclic_of_subset (fun _ _ hmem => List.mem_append_left _ hmem) (fun _ h => h) hacyclic)
      have hrest := ih (r := { r with graph := { r.graph with
        edges := r.graph.edges ++ edgesOfBlock b } }) hnodes hblocks hrelations hnodup hacyclic
      rw [List.map_cons, List.foldl_cons, hfirst]
      exact hrest.trans (by simp)

end Edges

section Graphs

variable {vars : List Variable} {blocks : List Block}

/-- The graph of variables and blocks that were found. -/
def graphOf (vars : List Variable) (blocks : List Block) : Graph where
  nodes := blocks.map blockNode
  edges := blocks.flatMap edgesOfBlock
  vars := systemVariables ++ vars

/-- Nothing speaks against the graph of variables and blocks. -/
structure Sound (vars : List Variable) (blocks : List Block) : Prop where
  named : ∀ v ∈ vars, isVariableName v.name = true ∧ Graph.fits v
  variableNames : ((systemVariables ++ vars).map Variable.name).Nodup
  variableIds : ((systemVariables ++ vars).map Variable.id).Nodup
  taskNames : ∀ b ∈ blocks, toIdentifier b.name = b.name ∧ isBlankText b.name = false
  names : (blocks.map Block.name).Nodup
  relations : ∀ b ∈ blocks, ∀ relation ∈ b.relations,
    relation.2 ∈ blocks.map Block.name ∧ relation.2 ≠ b.name
  edges : (blocks.flatMap edgesOfBlock).Nodup
  acyclic : ∀ id, ¬ TransGen (Order.Requires (blocks.map blockNode)
    (blocks.flatMap edgesOfBlock)) id id

theorem Sound.identifiers (h : Sound vars blocks) :
    (blocks.map blockNode).map Node.identifier = blocks.map Block.name := by
  rw [List.map_map]
  exact List.map_congr_left fun b hb => (h.taskNames b hb).1

theorem Sound.namedByScript (h : Sound vars blocks) : NamedByScript (blocks.map blockNode) := by
  intro n hn
  obtain ⟨b, hb, rfl⟩ := List.mem_map.1 hn
  have hidentifier : (blockNode b).identifier = b.name := (h.taskNames b hb).1
  rw [hidentifier]
  exact ⟨rfl, rfl⟩

/-- What was found becomes its graph, without errors and with at most the remark that there are no
tasks. -/
theorem assemble_eq (h : Sound vars blocks) (hfresh : ∀ b ∈ blocks, taskId b.name ∉ ids.issued) :
    assemble { blocks, vars, ids } =
      { graph := graphOf vars blocks
        warnings := if blocks.isEmpty then [.noTasks] else [] } := by
  have hdeclared : declareVariables vars { graph := Graph.empty } =
      { graph := { Graph.empty with vars := systemVariables ++ vars } } :=
    declareVariables_eq h.named h.variableNames h.variableIds
  have hadded :
      addNodes blocks ids { graph := { Graph.empty with vars := systemVariables ++ vars } } =
      ({ graph := { Graph.empty with
        vars := systemVariables ++ vars
        nodes := blocks.map blockNode } }, blocks.map fun b => (b, blockNode b)) :=
    addNodes_eq h.taskNames hfresh (by simp [Graph.empty]) (by simpa [Graph.empty] using h.names)
  have hedges := foldl_blocks (r := { graph := { Graph.empty with
      vars := systemVariables ++ vars
      nodes := blocks.map blockNode } }) h.namedByScript
    (fun b hb => by
      rw [h.identifiers]
      exact List.mem_map_of_mem hb)
    (fun b hb => by
      rw [h.identifiers]
      exact h.relations b hb) h.edges h.acyclic
  simp only [assemble, hdeclared, hadded, hedges]
  cases blocks with
  | nil => rfl
  | cons b blocks => rfl

end Graphs

end BuildGraph.Script
