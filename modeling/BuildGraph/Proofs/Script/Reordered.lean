import BuildGraph.Proofs.Order.Resequence
import BuildGraph.Proofs.Script.Rebuilt

/-!
# The order of tasks that are read back

The tasks of a graph that is read back stand in the order of its script, and its edges block by
block. Its own script has them in the same order again, as `emittedNodes_rebuilt` says: what becomes
ready together stands together in the script, and the edges from one task to others come in the
order in which the blocks of the others come.
-/

open Relation

namespace BuildGraph.Script

variable {g : Graph} {options : ExportOptions} {n : Node} {a b x y : String}

section Sublists

variable {α β : Type} {l front back : List α}

/-- A list without repetitions whose elements are all one has that one at most. -/
theorem sublist_singleton (hnodup : l.Nodup) {a : α} (h : ∀ x ∈ l, x = a) : l.Sublist [a] := by
  cases l with
  | nil => exact List.nil_sublist _
  | cons x rest =>
      obtain rfl := h x List.mem_cons_self
      cases rest with
      | nil => exact .refl _
      | cons y rest =>
          obtain rfl := h y (by simp)
          exact absurd List.mem_cons_self (List.nodup_cons.1 hnodup).1

/-- Lists of one element at most, put together, are part of the list of those elements. -/
theorem flatMap_sublist_map {f : α → List β} {key : α → β} (h : ∀ a ∈ l, (f a).Sublist [key a]) :
    (l.flatMap f).Sublist (l.map key) := by
  induction l with
  | nil => exact .refl _
  | cons a l ih =>
      obtain ⟨ha, hl⟩ := List.forall_mem_cons.1 h
      exact ha.append (ih hl)

/-- A part of two lists that has nothing of the second is part of the first. -/
theorem sublist_of_sublist_append [DecidableEq α] (h : l.Sublist (front ++ back))
    (hback : ∀ x ∈ l, x ∉ back) : l.Sublist front := by
  have hself : l.filter (fun x => decide (x ∉ back)) = l :=
    List.filter_eq_self.2 fun x hx => by simpa using hback x hx
  have hnone : back.filter (fun x => decide (x ∉ back)) = [] :=
    List.filter_eq_nil_iff.2 fun x hx => by simpa using hx
  have hkept := h.filter fun x => decide (x ∉ back)
  rw [hself, List.filter_append, hnone, List.append_nil] at hkept
  exact hkept.trans List.filter_sublist

end Sublists

section Requirements

theorem mem_registeredOf_of_enabled (h : g.WellFormed) (ha : Order.Enabled g.nodes a) :
    a ∈ registeredOf g options := by
  obtain ⟨n, hn, henabled, rfl⟩ := ha
  exact (mem_registeredOf h.nodes.ids).2
    ⟨n, (mem_emittedNodes h.nodes.ids).2 ⟨hn, .inl henabled⟩, by simp [isStub, henabled], rfl⟩

theorem enabled_rebuilt_of (h : g.WellFormed) (ha : Order.Enabled g.nodes a) :
    Order.Enabled (rebuilt g options).nodes (newId g a) := by
  obtain ⟨n, hn, henabled, rfl⟩ := ha
  rw [newId_eq h hn, rebuilt_nodes]
  exact ⟨rebuiltNode g options n, List.mem_map_of_mem ((mem_emittedNodes h.nodes.ids).2 ⟨hn, .inl henabled⟩),
    by rw [rebuiltNode_enabled, henabled], rebuiltNode_id n⟩

/-- Tasks that are read back require each other as the tasks of the graph do. -/
theorem requires_rebuilt_iff (h : g.WellFormed) :
    Order.Requires (rebuilt g options).nodes (rebuilt g options).edges x y ↔
      ∃ a b, x = newId g a ∧ y = newId g b ∧ Order.Requires g.nodes g.edges a b := by
  refine ⟨requires_rebuilt h, ?_⟩
  rintro ⟨a, b, rfl, rfl, hedge, ha, hb⟩
  refine ⟨?_, enabled_rebuilt_of h ha, enabled_rebuilt_of h hb⟩
  rw [rebuilt_edges h]
  exact List.mem_map.2 ⟨_, (mem_keptEdges h).2
    ⟨hedge, mem_registeredOf_of_enabled h ha, mem_registeredOf_of_enabled h hb⟩, rfl⟩

theorem mem_ids_of_enabled (ha : Order.Enabled g.nodes a) : a ∈ g.nodes.map Node.id := by
  obtain ⟨n, hn, -, rfl⟩ := ha
  exact List.mem_map_of_mem hn

/-- Between tasks of the graph requirements are the same. -/
theorem requires_rebuilt_newId (h : g.WellFormed) (ha : Order.Enabled g.nodes a)
    (hb : Order.Enabled g.nodes b) :
    Order.Requires (rebuilt g options).nodes (rebuilt g options).edges (newId g a) (newId g b) ↔
      Order.Requires g.nodes g.edges a b := by
  rw [requires_rebuilt_iff h]
  constructor
  · rintro ⟨a', b', hx, hy, hrequires⟩
    rwa [newId_injective h (mem_ids_of_enabled ha) (mem_ids_of_enabled hrequires.2.1) hx,
      newId_injective h (mem_ids_of_enabled hb) (mem_ids_of_enabled hrequires.2.2) hy]
  · exact fun hrequires => ⟨a, b, rfl, rfl, hrequires⟩

end Requirements

section Order

theorem filter_enabled_emittedNodes (h : g.WellFormed) :
    (emittedNodes g options).filter Node.enabled = runNodes g := by
  have hrun : (runNodes g).filter Node.enabled = runNodes g :=
    List.filter_eq_self.2 fun n hn => ((mem_runNodes h.nodes.ids).1 hn).2
  have hrest : (if options.disabledTasks = .omit then [] else
      g.nodes.filter (!·.enabled)).filter Node.enabled = [] := by
    refine List.filter_eq_nil_iff.2 fun n hn => ?_
    split at hn
    · cases hn
    · simpa using (List.mem_filter.1 hn).2
  rw [emittedNodes_eq, List.filter_append, hrun, hrest, List.append_nil]

theorem rebuilt_ids (h : g.WellFormed) : (rebuilt g options).nodes.map Node.id =
    ((emittedNodes g options).map Node.id).map (newId g) := by
  rw [rebuilt_nodes, List.map_map, List.map_map]
  refine List.map_congr_left fun n hn => ?_
  rw [Function.comp_apply, Function.comp_apply, rebuiltNode_id,
    newId_eq h ((mem_emittedNodes h.nodes.ids).1 hn).1]

theorem rebuilt_ids_nodup (h : g.WellFormed) : ((rebuilt g options).nodes.map Node.id).Nodup := by
  have hmem : ∀ id ∈ (emittedNodes g options).map Node.id, id ∈ g.nodes.map Node.id := by
    intro id hid
    obtain ⟨n, hn, rfl⟩ := List.mem_map.1 hid
    exact List.mem_map_of_mem ((mem_emittedNodes h.nodes.ids).1 hn).1
  rw [rebuilt_ids h]
  exact (emittedNodes_ids_nodup h.nodes.ids).map_on fun a ha b hb heq =>
    newId_injective h (hmem a ha) (hmem b hb) heq

/-- The enabled tasks that are read back come in the order of the run. -/
theorem consideredIds_rebuilt (options : ExportOptions) (h : g.WellFormed) :
    Order.consideredIds (rebuilt g options).nodes false =
      (g.executionOrder none).map (newId g) := by
  have henabled :
      ((fun n : Node => false || n.enabled) ∘ rebuiltNode g options) = Node.enabled := by
    funext n
    rw [Function.comp_apply, Bool.false_or, rebuiltNode_enabled]
  rw [Order.considered_ids_eq (rebuilt_ids_nodup h), rebuilt_nodes, List.filter_map, henabled,
    filter_enabled_emittedNodes h, ← runNodes_ids h.nodes.ids, List.map_map, List.map_map]
  refine List.map_congr_left fun n hn => ?_
  rw [Function.comp_apply, Function.comp_apply, rebuiltNode_id,
    newId_eq h ((mem_runNodes h.nodes.ids).1 hn).1]

/-- The block of a task names at most one edge from another task that makes it wait. -/
theorem hard_blockEdges_sublist (h : g.WellFormed) (ha : a ∈ g.nodes.map Node.id)
    {counts : Edge → Bool}
    (hcounts : ∀ e, counts e = true → e.source = newId g a ∧ e.relation = .dependsOn) :
    ((if isStub options n then [] else blockEdges g (registeredOf g options) n).filter
      (counts ∘ renamed g)).Sublist [⟨a, n.id, .dependsOn⟩] := by
  refine sublist_singleton ?_ fun e he => ?_
  · split
    · exact List.nodup_nil
    · exact (blockEdges_nodup h.edges.nodup).filter _
  · obtain ⟨hmem, hcounted⟩ := List.mem_filter.1 he
    obtain ⟨hsource, hrelation⟩ := hcounts _ hcounted
    split at hmem
    · cases hmem
    · obtain ⟨hedge, howner, -⟩ := mem_blockEdges.1 hmem
      obtain ⟨source, target, relation⟩ := e
      obtain rfl : relation = .dependsOn := hrelation
      obtain rfl : target = n.id := howner
      obtain rfl : source = a := newId_injective h (h.edges.joined _ hedge).2.1 ha hsource
      rfl

theorem newId_order_nodup (h : g.WellFormed) : ((g.executionOrder none).map (newId g)).Nodup := by
  rw [← consideredIds_rebuilt {} h]
  exact Order.considered_ids_nodup _ _

/-- A task of the run is none of those that are switched off. -/
theorem not_mem_disabled_ids (h : g.WellFormed) (hx : x ∈ (g.executionOrder none).map (newId g)) :
    x ∉ (if options.disabledTasks = .omit then [] else g.nodes.filter (!·.enabled)).map
      fun n => newId g n.id := by
  intro hdisabled
  obtain ⟨id, hid, rfl⟩ := List.mem_map.1 hx
  obtain ⟨n, hn, henabled, rfl⟩ := (mem_executionOrder h.nodes.ids).1 hid
  obtain ⟨m, hm, hsame⟩ := List.mem_map.1 hdisabled
  split at hm
  · cases hm
  · obtain ⟨hm, hoff⟩ := List.mem_filter.1 hm
    have hids := newId_injective h (List.mem_map_of_mem hm) (List.mem_map_of_mem hn) hsame
    rw [List.inj_on_of_nodup_map h.nodes.ids hm hn hids, henabled] at hoff
    cases hoff

/-- What a task that is read back makes wait comes in the order of the run. -/
theorem successors_rebuilt_sublist (h : g.WellFormed) (ha : a ∈ g.nodes.map Node.id) :
    (Order.successors (rebuilt g options).edges ((g.executionOrder none).map (newId g))
      (newId g a)).Sublist ((g.executionOrder none).map (newId g)) := by
  rw [Order.successors]
  generalize hcounts : (fun e : Edge => e.source == newId g a && e.relation.isHard &&
    ((g.executionOrder none).map (newId g)).contains e.source &&
    ((g.executionOrder none).map (newId g)).contains e.target) = counts
  have hcounted : ∀ e, counts e = true → (e.source = newId g a ∧ e.relation = .dependsOn) ∧
      e.target ∈ (g.executionOrder none).map (newId g) := by
    intro e he
    simp only [← hcounts, Bool.and_eq_true, beq_iff_eq, Order.isHard_iff,
      List.contains_iff_mem] at he
    exact ⟨⟨he.1.1.1, he.1.1.2⟩, he.2⟩
  have hblocks : (((rebuilt g options).edges.filter counts).map Edge.target).Sublist
      ((emittedNodes g options).map fun n => newId g n.id) := by
    rw [rebuilt_edges h, List.filter_map, List.map_map, keptEdges, List.filter_flatMap,
      List.map_flatMap]
    refine flatMap_sublist_map fun n _ => ?_
    exact (hard_blockEdges_sublist h ha fun e he => (hcounted e he).1).map _
  have hrun : (runNodes g).map (fun n => newId g n.id) =
      (g.executionOrder none).map (newId g) := by
    rw [← runNodes_ids h.nodes.ids, List.map_map]
    rfl
  rw [emittedNodes_eq, List.map_append, hrun] at hblocks
  -- Tasks that are switched off do not count, so nothing of their part of the script is left.
  have hfront := sublist_of_sublist_append hblocks fun x hx => by
    obtain ⟨e, he, rfl⟩ := List.mem_map.1 hx
    exact not_mem_disabled_ids h (hcounted e (List.mem_filter.1 he).2).2
  rwa [Order.firsts_eq_self ((newId_order_nodup h).sublist hfront)]

/-- The dependencies of the tasks that are read back are those of the tasks under new ids. -/
theorem renames_rebuilt (options : ExportOptions) (h : g.WellFormed) :
    Order.Renames (newId g) (Order.successors g.edges (Order.consideredIds g.nodes false))
      (Order.predecessors g.edges (Order.consideredIds g.nodes false))
      (Order.successors (rebuilt g options).edges ((g.executionOrder none).map (newId g)))
      (Order.predecessors (rebuilt g options).edges ((g.executionOrder none).map (newId g)))
      (Order.consideredIds g.nodes false) (g.executionOrder none) := by
  have hids : ∀ {id}, id ∈ Order.consideredIds g.nodes false → Order.Enabled g.nodes id :=
    Order.mem_considered_ids_iff_enabled.1
  have hmem : ∀ {id}, id ∈ Order.consideredIds g.nodes false → id ∈ g.nodes.map Node.id :=
    fun hid => mem_ids_of_enabled (hids hid)
  have hrequires : ∀ x y, Order.HardEdge (rebuilt g options).edges
      ((g.executionOrder none).map (newId g)) x y ↔
        Order.Requires (rebuilt g options).nodes (rebuilt g options).edges x y := by
    intro x y
    rw [← consideredIds_rebuilt options h, Order.hard_edge_considered_ids]
  exact {
    injective := fun a ha b hb heq => newId_injective h (hmem ha) (hmem hb) heq
    next_sublist := fun a ha => successors_rebuilt_sublist h (hmem ha)
    mem_next := fun a ha b hb => by
      rw [Order.mem_successors, Order.mem_successors, hrequires,
        requires_rebuilt_newId h (hids ha) (hids hb), Order.hard_edge_considered_ids]
    mem_before := fun b hb q => by
      simp only [Order.mem_predecessors, hrequires, Order.hard_edge_considered_ids]
      constructor
      · intro hq
        obtain ⟨a, b', rfl, hid, hrequired⟩ := requires_rebuilt h hq
        rw [← newId_injective h (hmem hb) (mem_ids_of_enabled hrequired.2.2) hid] at hrequired
        exact ⟨a, hrequired, rfl⟩
      · rintro ⟨a, hrequired, rfl⟩
        exact (requires_rebuilt_iff h).2 ⟨a, b, rfl, rfl, hrequired⟩ }

/-- The run of the graph that is read back has the order of the run of the graph. -/
theorem executionOrder_rebuilt (h : g.WellFormed) :
    (rebuilt g options).executionOrder none = (g.executionOrder none).map (newId g) := by
  let ids := Order.consideredIds g.nodes false
  have horder : g.executionOrder none =
      Order.sequence (Order.successors g.edges ids) (Order.predecessors g.edges ids) ids :=
    Order.execution_order_eq g.nodes g.edges none
  have hagain : (rebuilt g options).executionOrder none =
      Order.sequence
        (Order.successors (rebuilt g options).edges ((g.executionOrder none).map (newId g)))
        (Order.predecessors (rebuilt g options).edges ((g.executionOrder none).map (newId g)))
        ((g.executionOrder none).map (newId g)) := by
    rw [← consideredIds_rebuilt options h]
    exact Order.execution_order_eq _ _ none
  have hacyclic : Order.Acyclic g.edges ids := by
    intro id
    rw [Order.hard_edge_considered_ids]
    exact h.edges.acyclic id
  have hacc : ∀ id ∈ ids, Acc (fun p x => p ∈ Order.predecessors g.edges ids x) id := fun id _ => by
    simpa only [Order.mem_predecessors] using hacyclic.acc id
  have hrenames := renames_rebuilt options h
  rw [hagain]
  rw [horder] at hrenames ⊢
  exact Order.sequence_rename (fun a b => by rw [Order.mem_successors, Order.mem_predecessors])
    (fun a b hb => (Order.mem_successors.1 hb).2) (Order.successors_nodup g.edges ids)
    (Order.considered_ids_nodup _ _) hacc hrenames

/-- The enabled tasks are found again in the order of the run. -/
theorem runNodes_rebuilt (h : g.WellFormed) :
    runNodes (rebuilt g options) = (runNodes g).map (rebuiltNode g options) := by
  have hfind : ∀ nodes : List Node, (∀ n ∈ nodes, n ∈ runNodes g) →
      (nodes.map fun n => newId g n.id).filterMap
        (fun id => (rebuilt g options).nodes.reverse.find? fun n => n.id == id) =
      nodes.map (rebuiltNode g options) := by
    intro nodes hnodes
    induction nodes with
    | nil => rfl
    | cons n nodes ih =>
        obtain ⟨hn, hnodes⟩ := List.forall_mem_cons.1 hnodes
        obtain ⟨hmem, henabled⟩ := (mem_runNodes h.nodes.ids).1 hn
        have hrebuilt : rebuiltNode g options n ∈ (rebuilt g options).nodes := by
          rw [rebuilt_nodes]
          exact List.mem_map_of_mem ((mem_emittedNodes h.nodes.ids).2 ⟨hmem, .inl henabled⟩)
        have hfound := find_reverse_eq (rebuilt_ids_nodup h) hrebuilt
        rw [rebuiltNode_id, ← newId_eq h hmem] at hfound
        rw [List.map_cons, List.filterMap_cons, hfound, ih hnodes]
        rfl
  rw [runNodes, executionOrder_rebuilt h, ← runNodes_ids h.nodes.ids, List.map_map]
  exact hfind _ fun n hn => hn

theorem filter_disabled_emittedNodes (h : g.WellFormed) :
    (emittedNodes g options).filter (!·.enabled) =
      if options.disabledTasks = .omit then [] else g.nodes.filter (!·.enabled) := by
  have hnone : (runNodes g).filter (!·.enabled) = [] :=
    List.filter_eq_nil_iff.2 fun n hn => by simpa using ((mem_runNodes h.nodes.ids).1 hn).2
  rw [emittedNodes_eq, List.filter_append, hnone, List.nil_append]
  split
  · rfl
  · exact List.filter_filter.trans (by simp)

/-- The script of the graph that is read back has the same tasks in the same order. -/
theorem emittedNodes_rebuilt (h : g.WellFormed) : emittedNodes (rebuilt g options) options =
    (emittedNodes g options).map (rebuiltNode g options) := by
  have hsame : ((!·.enabled) ∘ rebuiltNode g options) = fun n : Node => !n.enabled := by
    funext n
    rw [Function.comp_apply, rebuiltNode_enabled]
  rw [emittedNodes_eq, runNodes_rebuilt h, rebuilt_nodes, List.filter_map, hsame,
    filter_disabled_emittedNodes h, emittedNodes_eq g, List.map_append]
  split <;> rfl

end Order

end BuildGraph.Script
