import BuildGraph.Proofs.Script.Assemble

/-!
# The graph that is read back

`rebuilt` is the graph that reading the script of a graph gives: its nodes are the tasks of the
script in their order, and its edges are those that the blocks name, under the ids that a script
gives to tasks. Nothing speaks against it when the graph is well formed.
-/

open Relation

namespace BuildGraph.Script

open BuildGraph.Text

variable {g : Graph} {options : ExportOptions} {registered : List String} {n : Node} {e : Edge}
  {id : String}

section Lookup

variable {nodes : List Node}

/-- The last node of an id is the only one. -/
theorem find_reverse_eq (hids : (nodes.map Node.id).Nodup) (hn : n ∈ nodes) :
    (nodes.reverse.find? fun m => m.id == n.id) = some n := by
  have hsome : (nodes.reverse.find? fun m => m.id == n.id).isSome := by
    rw [List.find?_isSome]
    exact ⟨n, List.mem_reverse.2 hn, by simp⟩
  obtain ⟨m, hm⟩ := Option.isSome_iff_exists.1 hsome
  have hid : m.id = n.id := by simpa using List.find?_some hm
  have hmem : m ∈ nodes := List.mem_reverse.1 (List.mem_of_find?_eq_some hm)
  rw [hm, List.inj_on_of_nodup_map hids hmem hn hid]

theorem identifierOf_eq (hids : (g.nodes.map Node.id).Nodup) (hn : n ∈ g.nodes) :
    identifierOf g n.id = n.identifier := by
  rw [identifierOf, find_reverse_eq hids hn]
  rfl

/-- Distinct nodes have distinct identifiers. -/
theorem identifierOf_injective (h : NodesWellFormed g.nodes) {a b : String}
    (ha : a ∈ g.nodes.map Node.id) (hb : b ∈ g.nodes.map Node.id)
    (heq : identifierOf g a = identifierOf g b) : a = b := by
  obtain ⟨n, hn, rfl⟩ := List.mem_map.1 ha
  obtain ⟨m, hm, rfl⟩ := List.mem_map.1 hb
  rw [identifierOf_eq h.ids hn, identifierOf_eq h.ids hm] at heq
  rw [List.inj_on_of_nodup_map h.identifiers hn hm heq]

end Lookup

section Emitted

/-- The enabled nodes in the order of a run. -/
def runNodes (g : Graph) : List Node :=
  (g.executionOrder none).filterMap fun id => g.nodes.reverse.find? fun n => n.id == id

theorem emittedNodes_eq (g : Graph) (options : ExportOptions) :
    emittedNodes g options = runNodes g ++
      if options.disabledTasks = .omit then [] else g.nodes.filter (!·.enabled) := rfl

theorem mem_executionOrder (hids : (g.nodes.map Node.id).Nodup) :
    id ∈ g.executionOrder none ↔ ∃ n ∈ g.nodes, n.enabled = true ∧ n.id = id := by
  have hspec := Order.is_run_order hids g.edges none
  exact hspec.mem_iff id

/-- The ids of the nodes in the order of a run are that order. -/
theorem runNodes_ids (hids : (g.nodes.map Node.id).Nodup) :
    (runNodes g).map Node.id = g.executionOrder none := by
  have hall : ∀ ids : List String, (∀ id ∈ ids, id ∈ g.nodes.map Node.id) →
      (ids.filterMap fun id => g.nodes.reverse.find? fun n => n.id == id).map Node.id = ids := by
    intro ids hall
    induction ids with
    | nil => rfl
    | cons id ids ih =>
        obtain ⟨hid, hrest⟩ := List.forall_mem_cons.1 hall
        obtain ⟨n, hn, rfl⟩ := List.mem_map.1 hid
        rw [List.filterMap_cons, find_reverse_eq hids hn]
        simp [ih hrest]
  refine hall _ fun id hid => ?_
  obtain ⟨n, hn, -, rfl⟩ := (mem_executionOrder hids).1 hid
  exact List.mem_map_of_mem hn

theorem mem_runNodes (hids : (g.nodes.map Node.id).Nodup) :
    n ∈ runNodes g ↔ n ∈ g.nodes ∧ n.enabled = true := by
  have hmem : ∀ m ∈ runNodes g, m ∈ g.nodes := by
    intro m hm
    obtain ⟨id, -, hfind⟩ := List.mem_filterMap.1 hm
    exact List.mem_reverse.1 (List.mem_of_find?_eq_some hfind)
  have hiff : n.id ∈ (runNodes g).map Node.id ↔ ∃ m ∈ g.nodes, m.enabled = true ∧ m.id = n.id := by
    rw [runNodes_ids hids, mem_executionOrder hids]
  constructor
  · intro hn
    obtain ⟨m, hm, henabled, hid⟩ := hiff.1 (List.mem_map_of_mem hn)
    rw [List.inj_on_of_nodup_map hids hm (hmem n hn) hid] at henabled
    exact ⟨hmem n hn, henabled⟩
  · rintro ⟨hn, henabled⟩
    obtain ⟨m, hm, hid⟩ := List.mem_map.1 (hiff.2 ⟨n, hn, henabled, rfl⟩)
    rwa [List.inj_on_of_nodup_map hids (hmem m hm) hn hid] at hm

/-- A script has the enabled tasks, and those that are switched off unless they are left out. -/
theorem mem_emittedNodes (hids : (g.nodes.map Node.id).Nodup) : n ∈ emittedNodes g options ↔
    n ∈ g.nodes ∧ (n.enabled = true ∨ options.disabledTasks ≠ .omit) := by
  rw [emittedNodes_eq, List.mem_append, mem_runNodes hids]
  by_cases homit : options.disabledTasks = .omit
  · simp [homit]
  · simp only [homit, if_false, List.mem_filter, ne_eq, not_false_eq_true, or_true, and_true]
    cases n.enabled <;> simp

theorem emittedNodes_ids_nodup (hids : (g.nodes.map Node.id).Nodup) :
    ((emittedNodes g options).map Node.id).Nodup := by
  have hrun : ((runNodes g).map Node.id).Nodup := by
    rw [runNodes_ids hids]
    exact (Order.is_run_order hids g.edges none).nodup
  rw [emittedNodes_eq]
  split
  · rwa [List.append_nil]
  · rw [List.map_append]
    refine hrun.append (hids.sublist (List.filter_sublist.map _)) ?_
    rintro id hid hid'
    obtain ⟨n, hn, rfl⟩ := List.mem_map.1 hid
    obtain ⟨m, hm, heq⟩ := List.mem_map.1 hid'
    obtain ⟨hm, hdisabled⟩ := List.mem_filter.1 hm
    obtain ⟨hn, henabled⟩ := (mem_runNodes hids).1 hn
    rw [List.inj_on_of_nodup_map hids hm hn heq, henabled] at hdisabled
    cases hdisabled

/-- A task is registered when it is in the script with a block. -/
theorem mem_registeredOf (hids : (g.nodes.map Node.id).Nodup) : id ∈ registeredOf g options ↔
    ∃ n ∈ emittedNodes g options, isStub options n = false ∧ n.id = id := by
  rw [registeredOf, registeredIds, List.mem_map]
  refine exists_congr fun n => ?_
  rw [List.mem_filter, and_assoc]
  refine and_congr_right fun hn => and_congr_left fun _ => ?_
  have hkept := ((mem_emittedNodes hids).1 hn).2
  rw [isStub]
  cases henabled : n.enabled <;> cases hstyle : options.disabledTasks <;>
    simp [henabled, hstyle] at hkept ⊢

end Emitted

section Edges

/-- The edges that the block of a node names: those into it, but for the ones that finish it, and
then those to what finishes it. -/
def blockEdges (g : Graph) (registered : List String) (n : Node) : List Edge :=
  ((g.incoming n.id none).filter fun e =>
    e.relation != .finalizedBy && registered.contains e.source) ++
  (g.outgoing n.id (some .finalizedBy)).filter fun e => registered.contains e.target

/-- The end of an edge in whose block it is named. -/
def owner (e : Edge) : String := if e.relation = .finalizedBy then e.source else e.target

/-- The other end of an edge. -/
def partner (e : Edge) : String := if e.relation = .finalizedBy then e.target else e.source

theorem mem_blockEdges : e ∈ blockEdges g registered n ↔
    e ∈ g.edges ∧ owner e = n.id ∧ partner e ∈ registered := by
  simp only [blockEdges, List.mem_append, List.mem_filter, Graph.incoming, Graph.outgoing, owner,
    partner]
  by_cases hfinal : e.relation = .finalizedBy
  · simp [hfinal, and_assoc]
  · have hother : ¬ Relation.finalizedBy = e.relation := fun h => hfinal h.symm
    simp [hfinal, hother, and_assoc]

theorem blockEdges_nodup (h : g.edges.Nodup) : (blockEdges g registered n).Nodup := by
  refine (((h.filter _).filter _).append ((h.filter _).filter _)) fun e he he' => ?_
  have hnot := (List.mem_filter.1 he).2
  have hfinal := (List.mem_filter.1 (List.mem_filter.1 he').1).2
  simp only [Option.all_some, Bool.and_eq_true, beq_iff_eq, bne_iff_ne] at hnot hfinal
  exact hnot.1 hfinal.2.symm

theorem writtenRelations_eq (g : Graph) (registered : List String) (n : Node) :
    writtenRelations g registered n =
      (blockEdges g registered n).map fun e => (e.relation, identifierOf g (partner e)) := by
  rw [writtenRelations, blockEdges, List.map_append]
  congr 1
  · refine List.map_congr_left fun e he => ?_
    have hnot := (List.mem_filter.1 he).2
    simp only [Bool.and_eq_true, bne_iff_ne] at hnot
    rw [partner, if_neg hnot.1]
  · refine List.map_congr_left fun e he => ?_
    have hfinal := (List.mem_filter.1 (List.mem_filter.1 he).1).2
    simp only [Option.all_some, Bool.and_eq_true, beq_iff_eq] at hfinal
    rw [partner, if_pos hfinal.2.symm, ← hfinal.2]

/-- An edge between tasks under the ids that a script gives to them. -/
def renamed (g : Graph) (e : Edge) : Edge :=
  ⟨taskId (identifierOf g e.source), taskId (identifierOf g e.target), e.relation⟩

theorem renamed_injective (h : g.WellFormed) {e' : Edge} (he : e ∈ g.edges) (he' : e' ∈ g.edges)
    (heq : renamed g e = renamed g e') : e = e' := by
  obtain ⟨hsource, htarget, hrelation⟩ := Edge.mk.inj heq
  obtain ⟨-, hs, ht⟩ := h.edges.joined e he
  obtain ⟨-, hs', ht'⟩ := h.edges.joined e' he'
  have hsources := identifierOf_injective h.nodes hs hs' (taskId_injective hsource)
  have htargets := identifierOf_injective h.nodes ht ht' (taskId_injective htarget)
  obtain ⟨source, target, relation⟩ := e
  obtain ⟨source', target', relation'⟩ := e'
  simp_all

/-- The edges that a script names, block by block. -/
def keptEdges (g : Graph) (options : ExportOptions) : List Edge :=
  (emittedNodes g options).flatMap fun n =>
    if isStub options n then [] else blockEdges g (registeredOf g options) n

/-- A script names an edge when it has blocks for both ends. -/
theorem mem_keptEdges (h : g.WellFormed) : e ∈ keptEdges g options ↔
    e ∈ g.edges ∧ e.source ∈ registeredOf g options ∧ e.target ∈ registeredOf g options := by
  have hends : (owner e ∈ registeredOf g options ∧ partner e ∈ registeredOf g options) ↔
      e.source ∈ registeredOf g options ∧ e.target ∈ registeredOf g options := by
    rw [owner, partner]
    split
    · exact Iff.rfl
    · exact and_comm
  rw [← hends, mem_registeredOf h.nodes.ids, keptEdges, List.mem_flatMap]
  constructor
  · rintro ⟨n, hn, he⟩
    split at he
    · cases he
    · next hstub =>
        obtain ⟨he, howner, hpartner⟩ := mem_blockEdges.1 he
        exact ⟨he, ⟨n, hn, by simpa using hstub, howner.symm⟩, hpartner⟩
  · rintro ⟨he, ⟨n, hn, hstub, howner⟩, hpartner⟩
    refine ⟨n, hn, ?_⟩
    rw [if_neg (by simp [hstub])]
    exact mem_blockEdges.2 ⟨he, howner.symm, hpartner⟩

theorem keptEdges_nodup (h : g.WellFormed) : (keptEdges g options).Nodup := by
  refine List.nodup_flatMap.2 ⟨fun n _ => ?_, ?_⟩
  · split
    · exact List.nodup_nil
    · exact blockEdges_nodup h.edges.nodup
  · have hids := @emittedNodes_ids_nodup g options h.nodes.ids
    rw [List.Nodup, List.pairwise_map] at hids
    refine hids.imp fun hne => ?_
    intro e he he'
    dsimp only at he he'
    split at he
    · cases he
    · split at he'
      · cases he'
      · exact hne ((mem_blockEdges.1 he).2.1.symm.trans (mem_blockEdges.1 he').2.1)

end Edges

section Graphs

/-- The block that a script keeps of a task, where a stub may stand for a task that is switched
off. -/
def foundBlock (g : Graph) (registered : List String) (options : ExportOptions) (n : Node) :
    Block :=
  if isStub options n then stubBlock n 0 else keptBlock g registered options n 0

/-- The blocks that are found in the script of a graph. -/
def foundBlocks (g : Graph) (options : ExportOptions) : List Block :=
  (emittedNodes g options).map fun n => foundBlock g (registeredOf g options) options n

/-- The graph that is read back from the script of a graph. -/
def rebuilt (g : Graph) (options : ExportOptions) : Graph :=
  graphOf ((declaredVariables options g.userVariables).map declared) (foundBlocks g options)

theorem foundBlock_name : (foundBlock g registered options n).name = n.identifier := by
  rw [foundBlock]
  split <;> rfl

/-- The relations of a block become the edges that it names. -/
theorem edgesOfBlock_foundBlock (h : g.WellFormed) (hn : n ∈ g.nodes) :
    edgesOfBlock (foundBlock g registered options n) =
      (if isStub options n then [] else blockEdges g registered n).map (renamed g) := by
  rw [foundBlock]
  split
  · rfl
  · change (writtenRelations g registered n).map (relationEdge n.identifier) = _
    rw [writtenRelations_eq, List.map_map]
    refine List.map_congr_left fun e he => ?_
    have howner : owner e = n.id := (mem_blockEdges.1 he).2.1
    rw [Function.comp_apply, relationEdge, renamed, ← identifierOf_eq h.nodes.ids hn, ← howner,
      owner, partner]
    by_cases hfinal : e.relation = .finalizedBy <;> simp [hfinal]

theorem rebuilt_edges (h : g.WellFormed) :
    (rebuilt g options).edges = (keptEdges g options).map (renamed g) := by
  change (foundBlocks g options).flatMap edgesOfBlock = _
  rw [foundBlocks, List.flatMap_map, keptEdges, List.map_flatMap]
  refine List.flatMap_congr fun n hn => ?_
  exact edgesOfBlock_foundBlock h ((mem_emittedNodes h.nodes.ids).1 hn).1

/-- The node that is read back for a task of a script. -/
def rebuiltNode (g : Graph) (options : ExportOptions) (n : Node) : Node :=
  blockNode (foundBlock g (registeredOf g options) options n)

theorem rebuilt_nodes : (rebuilt g options).nodes =
    (emittedNodes g options).map (rebuiltNode g options) := by
  change (foundBlocks g options).map blockNode = _
  rw [foundBlocks, List.map_map]
  rfl

theorem rebuiltNode_enabled (n : Node) : (rebuiltNode g options n).enabled = n.enabled := by
  rw [rebuiltNode, foundBlock]
  split
  · next hstub =>
      rw [isStub, Bool.and_eq_true] at hstub
      have hdisabled : n.enabled = false := by simpa using hstub.1
      rw [hdisabled]
      rfl
  · rfl

theorem rebuiltNode_id (n : Node) : (rebuiltNode g options n).id = taskId n.identifier := by
  change taskId _ = _
  rw [foundBlock_name]

/-- The ids that a script gives to nodes, from the ids of the nodes. -/
def newId (g : Graph) (id : String) : String := taskId (identifierOf g id)

theorem newId_eq (h : g.WellFormed) (hn : n ∈ g.nodes) : newId g n.id = taskId n.identifier := by
  rw [newId, identifierOf_eq h.nodes.ids hn]

theorem newId_injective (h : g.WellFormed) {a b : String} (ha : a ∈ g.nodes.map Node.id)
    (hb : b ∈ g.nodes.map Node.id) (heq : newId g a = newId g b) : a = b :=
  identifierOf_injective h.nodes ha hb (taskId_injective heq)

/-- An enabled task that is read back comes from an enabled one. -/
theorem enabled_rebuilt (h : g.WellFormed) {a : String} (ha : a ∈ g.nodes.map Node.id)
    (henabled : Order.Enabled (rebuilt g options).nodes (newId g a)) :
    Order.Enabled g.nodes a := by
  obtain ⟨m, hm, hon, hid⟩ := henabled
  rw [rebuilt_nodes] at hm
  obtain ⟨n, hn, rfl⟩ := List.mem_map.1 hm
  have hmem := ((mem_emittedNodes h.nodes.ids).1 hn).1
  rw [rebuiltNode_id, ← newId_eq h hmem] at hid
  rw [rebuiltNode_enabled] at hon
  exact ⟨n, hmem, hon, newId_injective h (List.mem_map_of_mem hmem) ha hid⟩

/-- What a task that is read back requires comes from what the task required. -/
theorem requires_rebuilt (h : g.WellFormed) {x y : String}
    (hxy : Order.Requires (rebuilt g options).nodes (rebuilt g options).edges x y) :
    ∃ a b, x = newId g a ∧ y = newId g b ∧ Order.Requires g.nodes g.edges a b := by
  obtain ⟨hmem, hx, hy⟩ := hxy
  rw [rebuilt_edges h] at hmem
  obtain ⟨e, he, heq⟩ := List.mem_map.1 hmem
  obtain ⟨rfl, rfl, hrelation⟩ := Edge.mk.inj heq
  have hedge := ((mem_keptEdges h).1 he).1
  obtain ⟨-, hsource, htarget⟩ := h.edges.joined e hedge
  refine ⟨e.source, e.target, rfl, rfl, ?_, enabled_rebuilt h hsource hx,
    enabled_rebuilt h htarget hy⟩
  rw [← hrelation]
  exact hedge

/-- A chain of requirements between tasks that are read back comes from one between the tasks. -/
theorem chain_rebuilt (h : g.WellFormed) {x y : String}
    (hxy : TransGen (Order.Requires (rebuilt g options).nodes (rebuilt g options).edges) x y) :
    ∃ a b, x = newId g a ∧ y = newId g b ∧ a ∈ g.nodes.map Node.id ∧ b ∈ g.nodes.map Node.id ∧
      TransGen (Order.Requires g.nodes g.edges) a b := by
  have hids : ∀ {a b}, Order.Requires g.nodes g.edges a b →
      a ∈ g.nodes.map Node.id ∧ b ∈ g.nodes.map Node.id := by
    rintro a b ⟨-, ⟨n, hn, -, rfl⟩, ⟨m, hm, -, rfl⟩⟩
    exact ⟨List.mem_map_of_mem hn, List.mem_map_of_mem hm⟩
  induction hxy with
  | single hstep =>
      obtain ⟨a, b, rfl, rfl, hab⟩ := requires_rebuilt h hstep
      exact ⟨a, b, rfl, rfl, (hids hab).1, (hids hab).2, .single hab⟩
  | tail _ hstep ih =>
      obtain ⟨a, b, rfl, rfl, ha, hb, hab⟩ := ih
      obtain ⟨b', c, heq, rfl, hbc⟩ := requires_rebuilt h hstep
      -- the two steps meet in one task, since ids are not mixed up
      obtain rfl := newId_injective h hb (hids hbc).1 heq
      exact ⟨a, c, rfl, rfl, ha, (hids hbc).2, hab.tail hbc⟩

theorem acyclic_rebuilt (h : g.WellFormed) (id : String) :
    ¬ TransGen (Order.Requires (rebuilt g options).nodes (rebuilt g options).edges) id id := by
  intro hcycle
  obtain ⟨a, b, hx, hy, ha, hb, hab⟩ := chain_rebuilt h hcycle
  obtain rfl := newId_injective h ha hb (hx.symm.trans hy)
  exact h.edges.acyclic a hab

end Graphs

end BuildGraph.Script
