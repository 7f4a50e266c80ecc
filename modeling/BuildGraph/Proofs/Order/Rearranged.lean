import BuildGraph.Proofs.Order.ExecutionOrder
import BuildGraph.Proofs.Order.Resequence

/-!
# Graphs in the order of their run

Nodes and edges may be put in the order of their run: the enabled nodes as the run visits them, and
the `dependsOn` edges of each source as the run visits their targets. `Arranged` says so, and
`execution_order_arranged_spec` that the run then has the same order again, since ties between ready
tasks are now decided as they were.
-/

open Relation

namespace BuildGraph.Order

section Positions

variable {α : Type} [DecidableEq α] {l order : List α}

/-- In a list without repetitions the elements come as their positions do. -/
theorem pairwise_idxOf (h : order.Nodup) :
    order.Pairwise fun a b => order.idxOf a ≤ order.idxOf b := by
  refine List.pairwise_iff_getElem.2 fun i j hi hj hij => ?_
  rw [h.idxOf_getElem, h.idxOf_getElem]
  exact hij.le

/-- Lists with the same elements, each once, are one if both go by the positions in a list. -/
theorem eq_of_pairwise_idxOf {l' : List α} (hsub : l ⊆ order) (hperm : l.Perm l')
    (h : l.Pairwise fun a b => order.idxOf a ≤ order.idxOf b)
    (h' : l'.Pairwise fun a b => order.idxOf a ≤ order.idxOf b) : l = l' :=
  hperm.eq_of_pairwise
    (fun _ _ ha _ hab hba => (List.idxOf_inj (hsub ha)).1 (Nat.le_antisymm hab hba)) h h'

/-- Some elements of a list, each once and by their positions, are a part of the list. -/
theorem sublist_of_pairwise_idxOf (horder : order.Nodup) (hnodup : l.Nodup) (hsub : l ⊆ order)
    (h : l.Pairwise fun a b => order.idxOf a ≤ order.idxOf b) : l.Sublist order := by
  let part := order.filter fun a => decide (a ∈ l)
  have hperm : l.Perm part := by
    refine (List.perm_ext_iff_of_nodup hnodup (horder.filter _)).2 fun a => ?_
    simpa [part] using fun ha : a ∈ l => hsub ha
  rw [eq_of_pairwise_idxOf hsub hperm h ((pairwise_idxOf horder).sublist List.filter_sublist)]
  exact List.filter_sublist

/-- A list sorted by numbers goes by them. -/
theorem pairwise_sort {β : Type} (key : β → Nat) (l : List β) :
    (l.mergeSort fun a b => decide (key a ≤ key b)).Pairwise fun a b => key a ≤ key b := by
  have hsorted : (l.mergeSort fun a b => decide (key a ≤ key b)).Pairwise
      fun a b => decide (key a ≤ key b) = true :=
    List.pairwise_mergeSort (by simp only [decide_eq_true_eq]; omega) (by simp; omega) l
  simpa only [decide_eq_true_eq] using hsorted

/-- First occurrences are a part of the list. -/
theorem firsts_sublist (l : List α) : (firsts l).Sublist l := by
  induction l with
  | nil => exact .refl _
  | cons a l ih => exact (List.filter_sublist.trans ih).cons_cons a

end Positions

/-- Whether an edge makes an enabled node wait for a source. -/
def holdsBack (nodes : List Node) (source : String) (e : Edge) : Bool :=
  e.source == source && e.relation.isHard && nodes.any fun n => n.enabled && n.id == e.target

/-- The same nodes and edges, arranged by an order of ids. -/
structure Arranged (nodes : List Node) (edges : List Edge) (order : List String)
    (nodes' : List Node) (edges' : List Edge) : Prop where
  nodes_perm : nodes'.Perm nodes
  edges_perm : edges'.Perm edges
  /-- The enabled nodes come in the order. Others may stand anywhere. -/
  nodes_in_order : (nodes'.filter Node.enabled).map Node.id = order
  /-- The `dependsOn` edges from a source to enabled nodes come in the order of their targets. -/
  edges_in_order : ∀ source, ((edges'.filter (holdsBack nodes source)).map
    Edge.target).Pairwise fun a b => order.idxOf a ≤ order.idxOf b

variable {nodes nodes' : List Node} {edges edges' : List Edge} {order : List String} {a b : String}

section Arranging

theorem Arranged.enabled_iff (h : Arranged nodes edges order nodes' edges') (id : String) :
    Enabled nodes' id ↔ Enabled nodes id := by
  simp only [Enabled, h.nodes_perm.mem_iff]

/-- Arranged nodes require each other as before. -/
theorem Arranged.requires_eq (h : Arranged nodes edges order nodes' edges') :
    Requires nodes' edges' = Requires nodes edges := by
  funext a b
  simp only [Requires, h.edges_perm.mem_iff, h.enabled_iff]

/-- The considered ids of arranged nodes are the order. -/
theorem Arranged.considered_ids_eq (h : Arranged nodes edges order nodes' edges')
    (hids : (nodes.map Node.id).Nodup) : consideredIds nodes' false = order := by
  rw [Order.considered_ids_eq ((h.nodes_perm.map Node.id).nodup_iff.2 hids)]
  simpa only [Bool.false_or] using h.nodes_in_order

/-- What depends on an arranged node comes in the order. -/
theorem Arranged.successors_sublist (h : Arranged nodes edges order nodes' edges')
    (horder : order.Nodup) (hmem : ∀ id, id ∈ order ↔ Enabled nodes id) (a : String) :
    (successors edges' order a).Sublist order := by
  have hsub : successors edges' order a ⊆ order := fun b hb => (mem_successors.1 hb).2.2
  refine sublist_of_pairwise_idxOf horder (successors_nodup edges' order a) hsub ?_
  -- the edges that count here are among those that are in order
  have hcounted : (edges'.filter fun e => e.source == a && e.relation.isHard &&
      order.contains e.source && order.contains e.target).Sublist
        (edges'.filter (holdsBack nodes a)) := by
    refine List.monotone_filter_right edges' fun e he => ?_
    simp only [Bool.and_eq_true, List.contains_iff_mem, hmem] at he
    obtain ⟨⟨⟨hsource, hhard⟩, -⟩, n, hn, henabled, hid⟩ := he
    simp only [holdsBack, hsource, hhard, Bool.and_self, Bool.true_and, List.any_eq_true]
    exact ⟨n, hn, by simp [henabled, hid]⟩
  exact (h.edges_in_order a).sublist ((firsts_sublist _).trans (hcounted.map _))

/-- Sorted by the positions of their ids and of their targets, nodes and edges are arranged. -/
theorem arranged_sort (hids : (nodes.map Node.id).Nodup) (horder : order.Nodup)
    (hmem : ∀ id, id ∈ order ↔ Enabled nodes id) :
    Arranged nodes edges order
      (nodes.mergeSort fun m n => decide (order.idxOf m.id ≤ order.idxOf n.id))
      (edges.mergeSort fun e f => decide (order.idxOf e.target ≤ order.idxOf f.target)) := by
  have hnodes := pairwise_sort (fun n : Node => order.idxOf n.id) nodes
  have hedges := pairwise_sort (fun e : Edge => order.idxOf e.target) edges
  have hperm := List.mergeSort_perm nodes fun m n => decide (order.idxOf m.id ≤ order.idxOf n.id)
  refine ⟨hperm, List.mergeSort_perm _ _, ?_, fun source =>
    List.pairwise_map.2 (hedges.sublist List.filter_sublist)⟩
  -- the enabled ids are those of the order, and both go by their positions
  generalize nodes.mergeSort _ = sorted at hnodes hperm
  have hsorted : ∀ id, id ∈ (sorted.filter Node.enabled).map Node.id ↔ id ∈ order := fun id => by
    simp [hmem, Enabled, hperm.mem_iff, and_assoc]
  have hnodup : ((sorted.filter Node.enabled).map Node.id).Nodup :=
    ((hperm.map Node.id).nodup_iff.2 hids).sublist (List.filter_sublist.map _)
  exact eq_of_pairwise_idxOf (fun id => (hsorted id).1)
    ((List.perm_ext_iff_of_nodup hnodup horder).2 hsorted)
    (List.pairwise_map.2 (hnodes.sublist List.filter_sublist)) (pairwise_idxOf horder)

end Arranging

/-- The dependencies of arranged nodes are those of the nodes, and what depends on a node comes in
the order. -/
theorem Arranged.renames (h : Arranged nodes edges order nodes' edges') (horder : order.Nodup)
    (hids : (nodes.map Node.id).Nodup) (hmem : ∀ id, id ∈ order ↔ Enabled nodes id) :
    Renames id (successors edges (consideredIds nodes false))
      (predecessors edges (consideredIds nodes false)) (successors edges' order)
      (predecessors edges' order) (consideredIds nodes false) order := by
  have hhard : HardEdge edges' order = HardEdge edges (consideredIds nodes false) := by
    rw [hard_edge_considered_ids, ← h.requires_eq, ← hard_edge_considered_ids,
      h.considered_ids_eq hids]
  exact {
    injective := fun _ _ _ _ heq => heq
    next_sublist := fun a _ => by simpa using h.successors_sublist horder hmem a
    mem_next := fun a _ b _ => by simp only [id, mem_successors, hhard]
    mem_before := fun b _ q => by simp [hhard] }

/-- A run without cycles has an order in which its nodes and edges can be arranged, and however they
are arranged by it, the run has the same order again. -/
theorem execution_order_arranged_spec (hids : (nodes.map Node.id).Nodup)
    (hacyclic : ∀ id, ¬ TransGen (Requires nodes edges) id id) :
    (∃ nodes' edges', Arranged nodes edges (executionOrder nodes edges none) nodes' edges') ∧
    ∀ nodes' edges', Arranged nodes edges (executionOrder nodes edges none) nodes' edges' →
      executionOrder nodes' edges' none = executionOrder nodes edges none := by
  have hmem : ∀ id, id ∈ executionOrder nodes edges none ↔ Enabled nodes id :=
    fun id => mem_execution_order
  have hnodup := execution_order_nodup nodes edges none
  refine ⟨⟨_, _, arranged_sort hids hnodup hmem⟩, fun nodes' edges' h => ?_⟩
  let ids := consideredIds nodes false
  have hacc : ∀ id ∈ ids, Acc (fun p x => p ∈ predecessors edges ids x) id := fun id _ => by
    have hall : Acyclic edges ids := by simpa only [Acyclic, ids, hard_edge_considered_ids]
    simpa only [mem_predecessors] using hall.acc id
  have hsame := sequence_rename
    (fun a b => by rw [mem_successors, mem_predecessors]) (fun a b hb => (mem_successors.1 hb).2)
    (successors_nodup edges ids) (considered_ids_nodup nodes false) hacc
    (h.renames hnodup hids hmem)
  rw [List.map_id] at hsame
  calc executionOrder nodes' edges' none
      = sequence (successors edges' (consideredIds nodes' false))
          (predecessors edges' (consideredIds nodes' false)) (consideredIds nodes' false) := rfl
    _ = executionOrder nodes edges none := by
        rw [h.considered_ids_eq hids]
        exact hsame

/-- Two of five tasks are ready first, two wait for the first of these, the later one in the list
before the other, the last task waits for two, and one task is switched off. -/
theorem execution_order_arranged_spec_ties :
    let off : Node := { id := "off", name := "off", enabled := false }
    let task (id : String) : Node := { id, name := id }
    let nodes := [task "d", task "c", off, task "e", task "a", task "b"]
    let edges : List Edge := [⟨"c", "d", .dependsOn⟩, ⟨"a", "d", .dependsOn⟩,
      ⟨"a", "e", .dependsOn⟩, ⟨"a", "c", .dependsOn⟩, ⟨"off", "a", .dependsOn⟩]
    let nodes' := [task "a", task "b", task "e", off, task "c", task "d"]
    let edges' : List Edge := [⟨"off", "a", .dependsOn⟩, ⟨"a", "e", .dependsOn⟩,
      ⟨"a", "c", .dependsOn⟩, ⟨"a", "d", .dependsOn⟩, ⟨"c", "d", .dependsOn⟩]
    (nodes.map Node.id).Nodup ∧ (∀ id, ¬ TransGen (Requires nodes edges) id id) ∧
      executionOrder nodes edges none = ["a", "b", "e", "c", "d"] ∧
      Arranged nodes edges (executionOrder nodes edges none) nodes' edges' ∧
      executionOrder nodes' edges' none = executionOrder nodes edges none := by
  intro off task nodes edges nodes' edges'
  have hids : (nodes.map Node.id).Nodup := by decide
  have hacyclic : ∀ id, ¬ TransGen (Requires nodes edges) id id := by
    have hnone : findCycle nodes edges false = none := by decide +kernel
    have hall := find_cycle_eq_none_iff.1 hnone
    rwa [Acyclic, hard_edge_considered_ids] at hall
  have horder : executionOrder nodes edges none = ["a", "b", "e", "c", "d"] := by decide +kernel
  have hedges : (edges'.map Edge.target).Pairwise fun a b =>
      (executionOrder nodes edges none).idxOf a ≤ (executionOrder nodes edges none).idxOf b := by
    rw [horder]
    decide
  have harranged : Arranged nodes edges (executionOrder nodes edges none) nodes' edges' :=
    ⟨by decide, by decide, by rw [horder]; decide,
      fun source => hedges.sublist (List.filter_sublist.map _)⟩
  exact ⟨hids, hacyclic, horder, harranged,
    (execution_order_arranged_spec hids hacyclic).2 nodes' edges' harranged⟩

end BuildGraph.Order
