import BuildGraph.Proofs.Ids
import BuildGraph.Proofs.Script.Found

/-!
# Nodes of blocks

Ids are issued once. So a block with a name that is not blank is refused only when a node has its
identifier already, and either way the graph has a node with the identifier: `assemble_named` says
so of all blocks that were found in a script.
-/

namespace BuildGraph

namespace Script

open BuildGraph.Text

variable {ids : IdGenerator} {blocks : List Block} {r : ScriptReading} {found : Findings}

section Nodes

/-- Nodes stay, and every block with a name that is not blank leaves a node with its identifier: it
becomes one, or there is one already. -/
theorem addNodes_named (hissued : ∀ n ∈ r.graph.nodes, n.id ∈ ids.issued) :
    r.graph.nodes ⊆ (addNodes blocks ids r).1.graph.nodes ∧
      ∀ b ∈ blocks, isBlankText b.name = false →
        ∃ n ∈ (addNodes blocks ids r).1.graph.nodes, n.identifier = toIdentifier b.name := by
  induction blocks generalizing ids r with
  | nil => exact ⟨List.Subset.refl _, List.forall_mem_nil _⟩
  | cons b blocks ih =>
      have hfresh := ids.unique_fresh ("task_" ++ toIdentifier b.name)
      have hlater : (ids.unique ("task_" ++ toIdentifier b.name)).2.issued =
          (ids.unique ("task_" ++ toIdentifier b.name)).1 :: ids.issued := rfl
      rw [addNodes]
      generalize ids.unique ("task_" ++ toIdentifier b.name) = issued at hfresh hlater
      obtain ⟨id, ids'⟩ := issued
      dsimp only at hfresh hlater ⊢
      have hgrown : ∀ n ∈ r.graph.nodes, n.id ∈ ids'.issued := fun n hn =>
        hlater ▸ List.mem_cons_of_mem _ (hissued n hn)
      cases hadd : r.graph.addNode (b.toNode id) with
      | ok graph =>
          obtain ⟨-, -, -, rfl⟩ := Graph.add_node_eq_ok_iff.1 hadd
          have hall : ∀ n ∈ r.graph.nodes ++ [b.toNode id], n.id ∈ ids'.issued := by
            refine List.forall_mem_append.2 ⟨hgrown, List.forall_mem_singleton.2 ?_⟩
            rw [hlater]
            exact List.mem_cons_self
          obtain ⟨hkept, hnamed⟩ := @ih ids'
            { r with graph := { r.graph with nodes := r.graph.nodes ++ [b.toNode id] } } hall
          refine ⟨fun n hn => hkept (List.mem_append_left _ hn), List.forall_mem_cons.2
            ⟨fun _ => ⟨b.toNode id, hkept (by simp), rfl⟩, hnamed⟩⟩
      | error cause =>
          obtain ⟨hkept, hnamed⟩ := @ih ids'
            { r with errors := r.errors ++ [⟨b.name, b.line, cause.message⟩] } hgrown
          refine ⟨hkept, List.forall_mem_cons.2 ⟨fun hblank => ?_, hnamed⟩⟩
          -- the id is new, so the node was refused for its identifier
          by_contra hnone
          have hnew : ∀ other ∈ r.graph.nodes, other.identifier ≠ (b.toNode id).identifier :=
            fun other hother heq => hnone ⟨other, hkept hother, heq⟩
          have hid : (b.toNode id).id ∉ r.graph.nodeIds := by
            intro hmem
            obtain ⟨other, hother, heq⟩ := List.mem_map.1 hmem
            have hid : other.id = id := heq
            exact hfresh (hid ▸ hissued other hother)
          rw [Graph.add_node_eq_ok_iff.2 ⟨hid, hblank, hnew, rfl⟩] at hadd
          cases hadd

theorem addRelation_nodes (b : Block) (n : Node) (r : ScriptReading)
    (relation : Relation × String) : (addRelation b n r relation).graph.nodes = r.graph.nodes := by
  rw [addRelation]
  split
  · rfl
  · dsimp only
    split
    · next graph hadd =>
        obtain ⟨-, -, -, rfl⟩ := Graph.add_edge_eq_ok_iff.1 hadd
        rfl
    · rfl

/-- Edges leave the nodes as they are. -/
theorem foldl_addRelation_nodes (built : List (Block × Node)) (r : ScriptReading) :
    (built.foldl (fun r b => b.1.relations.foldl (addRelation b.1 b.2) r) r).graph.nodes =
      r.graph.nodes := by
  have hblock : ∀ (b : Block) (n : Node) (relations : List (Relation × String)) (r : ScriptReading),
      (relations.foldl (addRelation b n) r).graph.nodes = r.graph.nodes := by
    intro b n relations
    induction relations with
    | nil => exact fun r => rfl
    | cons relation relations ih =>
        exact fun r => (ih _).trans (addRelation_nodes b n r relation)
  induction built generalizing r with
  | nil => rfl
  | cons b built ih => exact (ih _).trans (hblock b.1 b.2 b.1.relations r)

/-- Every block with a name that is not blank leaves a node with its identifier in the graph. -/
theorem assemble_named {b : Block} (hb : b ∈ found.blocks) (hblank : isBlankText b.name = false) :
    ∃ n ∈ (assemble found).graph.nodes, n.identifier = toIdentifier b.name := by
  have hstart : ∀ n ∈ (declareVariables found.vars
      { graph := Graph.empty, errors := found.errors, warnings := found.warnings }).graph.nodes,
      n.id ∈ found.ids.issued := by
    rw [declareVariables_nodes]
    exact List.forall_mem_nil _
  obtain ⟨n, hn, hidentifier⟩ := (addNodes_named hstart).2 b hb hblank
  refine ⟨n, ?_, hidentifier⟩
  rw [assemble]
  dsimp only
  split_ifs <;> rwa [foldl_addRelation_nodes]

end Nodes

end Script

end BuildGraph
