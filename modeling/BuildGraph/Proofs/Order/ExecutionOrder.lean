import BuildGraph.Proofs.Order.CycleSearch
import BuildGraph.Proofs.Order.Discovery
import BuildGraph.Proofs.Order.Sequence

/-!
# The order of a run

`execution_order_spec` says what the order of a run is, for any edges and targets: it lists the
tasks that the run covers, each once, every task behind those it requires as far as no cycle
prevents it, and the tasks behind a cycle at the end as the nodes come. It depends on the targets as
a set, and on the `dependsOn` edges between enabled tasks alone.
-/

open Relation

namespace BuildGraph.Order

/-- A node of the id is enabled. -/
def Enabled (nodes : List Node) (id : String) : Prop :=
  ∃ n ∈ nodes, n.enabled = true ∧ n.id = id

/-- A `dependsOn` edge makes one enabled task run before another. -/
def Requires (nodes : List Node) (edges : List Edge) (a b : String) : Prop :=
  ⟨a, b, .dependsOn⟩ ∈ edges ∧ Enabled nodes a ∧ Enabled nodes b

/-- The tasks of a run: the enabled ones, or those that an enabled target requires, directly or
through others. -/
def Covered (nodes : List Node) (edges : List Edge) : Option (List String) → String → Prop
  | none, id => Enabled nodes id
  | some targets, id =>
      Enabled nodes id ∧ ∃ t ∈ targets, Enabled nodes t ∧ ReflTransGen (Requires nodes edges) id t

/-- `Requires` between the tasks of a run. -/
def RequiresInRun (nodes : List Node) (edges : List Edge) (targets : Option (List String))
    (a b : String) : Prop :=
  Requires nodes edges a b ∧ Covered nodes edges targets a ∧ Covered nodes edges targets b

/-- Whether an edge counts for the order of a run. -/
def countsForOrder (nodes : List Node) (e : Edge) : Bool :=
  e.relation.isHard && (nodes.any fun n => n.enabled && n.id == e.source) &&
    nodes.any fun n => n.enabled && n.id == e.target

variable {nodes : List Node} {edges : List Edge} {targets : Option (List String)} {id : String}

theorem mem_considered_ids_iff_enabled : id ∈ consideredIds nodes false ↔ Enabled nodes id := by
  simp [mem_considered_ids, Enabled]

theorem hard_edge_considered_ids :
    HardEdge edges (consideredIds nodes false) = Requires nodes edges := by
  funext a b
  simp only [HardEdge, Requires, mem_considered_ids_iff_enabled]

/-- The ids that are put in order. -/
def runIds (nodes : List Node) (edges : List Edge) (targets : Option (List String)) :
    List String :=
  match targets with
  | none => consideredIds nodes false
  | some ts => (consideredIds nodes false).filter fun id =>
      decide (id ∈ closure edges (consideredIds nodes false) ts)

theorem mem_run_ids : id ∈ runIds nodes edges targets ↔ Covered nodes edges targets id := by
  cases targets with
  | none => exact mem_considered_ids_iff_enabled
  | some ts =>
      simp only [runIds, Covered, List.mem_filter, decide_eq_true_eq, mem_closure,
        mem_considered_ids_iff_enabled, hard_edge_considered_ids]

theorem run_ids_sublist (nodes : List Node) (edges : List Edge) (targets : Option (List String)) :
    (runIds nodes edges targets).Sublist (consideredIds nodes false) := by
  cases targets with
  | none => exact .refl _
  | some ts => exact List.filter_sublist

theorem hard_edge_run_ids :
    HardEdge edges (runIds nodes edges targets) = RequiresInRun nodes edges targets := by
  funext a b
  simp only [HardEdge, RequiresInRun, Requires, mem_run_ids]
  have henabled : ∀ {id}, Covered nodes edges targets id → Enabled nodes id := fun h =>
    mem_considered_ids_iff_enabled.1 ((run_ids_sublist _ _ _).subset (mem_run_ids.2 h))
  refine propext ⟨?_, ?_⟩
  · rintro ⟨he, ha, hb⟩
    exact ⟨⟨he, henabled ha, henabled hb⟩, ha, hb⟩
  · rintro ⟨⟨he, -⟩, ha, hb⟩
    exact ⟨he, ha, hb⟩

/-- The tasks of a run are enabled. -/
theorem Covered.enabled (h : Covered nodes edges targets id) : Enabled nodes id := by
  cases targets with
  | none => exact h
  | some ts => exact h.1

/-- What a task of a run requires belongs to the run. -/
theorem Covered.of_requires {a b : String} (h : Requires nodes edges a b)
    (hb : Covered nodes edges targets b) : Covered nodes edges targets a := by
  cases targets with
  | none => exact h.2.1
  | some ts =>
      obtain ⟨_, t, ht, henabled, hbt⟩ := hb
      exact ⟨h.2.1, t, ht, henabled, .head h hbt⟩

theorem execution_order_eq (nodes : List Node) (edges : List Edge)
    (targets : Option (List String)) :
    executionOrder nodes edges targets =
      sequence (successors edges (runIds nodes edges targets))
        (predecessors edges (runIds nodes edges targets)) (runIds nodes edges targets) := by
  cases targets <;> rfl

/-- The order of a run: the accessible tasks in order, then those behind a cycle as the considered
ids come. -/
theorem execution_order_split (nodes : List Node) (edges : List Edge)
    (targets : Option (List String)) :
    ∃ first rest, executionOrder nodes edges targets = first ++ rest ∧ first.Nodup ∧
      Ordered (predecessors edges (runIds nodes edges targets)) first ∧
      (∀ id, id ∈ first ↔ Covered nodes edges targets id ∧
        ¬ FromCycle (RequiresInRun nodes edges targets) id) ∧
      rest.Sublist (runIds nodes edges targets) ∧
      ∀ id, id ∈ rest ↔ Covered nodes edges targets id ∧
        FromCycle (RequiresInRun nodes edges targets) id := by
  let ids := runIds nodes edges targets
  have hnodup : ids.Nodup := (considered_ids_nodup nodes false).sublist (run_ids_sublist _ _ _)
  have hdual : ∀ a b, b ∈ successors edges ids a ↔ a ∈ predecessors edges ids b :=
    fun a b => by rw [mem_successors, mem_predecessors]
  have hids : ∀ a b, b ∈ successors edges ids a → a ∈ ids ∧ b ∈ ids :=
    fun a b hb => (mem_successors.1 hb).2
  obtain ⟨first, rest, heq, hfirst, hordered, hmem, hrest, hmemRest⟩ :=
    sequence_spec hdual hids (successors_nodup edges ids) hnodup
  -- ids that are never ready are those that a chain of requirements without end leads to
  have hacc : ∀ id, Acc (fun p x => p ∈ predecessors edges ids x) id ↔
      ¬ FromCycle (RequiresInRun nodes edges targets) id := by
    intro id
    simp only [mem_predecessors]
    rw [acc_iff_not_from_cycle fun _ _ h => h.2.1, hard_edge_run_ids]
  refine ⟨first, rest, by rw [execution_order_eq, heq], hfirst, hordered, fun id => ?_, hrest,
    fun id => ?_⟩
  · rw [hmem, hacc, mem_run_ids]
  · rw [hmemRest, hacc, not_not, mem_run_ids]

/-- Edges that do not count have no part in the hard dependencies of enabled ids. -/
theorem successors_filter {ids : List String} (h : ∀ i ∈ ids, Enabled nodes i) (a : String) :
    successors (edges.filter (countsForOrder nodes)) ids a = successors edges ids a := by
  have hany : ∀ i ∈ ids, (nodes.any fun n => n.enabled && n.id == i) = true := by
    intro i hi
    obtain ⟨n, hn, henabled, hid⟩ := h i hi
    exact List.any_eq_true.2 ⟨n, hn, by simp [henabled, hid]⟩
  rw [successors, successors, List.filter_filter]
  congr 2
  refine List.filter_congr fun e _ => ?_
  by_cases hs : e.source ∈ ids
  · by_cases ht : e.target ∈ ids
    · simp [countsForOrder, hany _ hs, hany _ ht]
      grind
    · simp [ht]
  · simp [hs]

/-- The order of a run is that of the edges that count. -/
theorem execution_order_filter (nodes : List Node) (edges : List Edge)
    (targets : Option (List String)) :
    executionOrder nodes (edges.filter (countsForOrder nodes)) targets =
      executionOrder nodes edges targets := by
  have henabled : ∀ i ∈ consideredIds nodes false, Enabled nodes i :=
    fun i hi => mem_considered_ids_iff_enabled.1 hi
  have hclosure : ∀ ts, closure (edges.filter (countsForOrder nodes)) (consideredIds nodes false) ts
      = closure edges (consideredIds nodes false) ts := by
    intro ts
    have hpred : predecessors (edges.filter (countsForOrder nodes)) (consideredIds nodes false) =
        predecessors edges (consideredIds nodes false) := by
      funext a
      simp only [predecessors, successors_filter henabled]
    simp only [closure, hpred]
  have hids : runIds nodes (edges.filter (countsForOrder nodes)) targets =
      runIds nodes edges targets := by
    cases targets <;> simp only [runIds, hclosure]
  have hrun : ∀ i ∈ runIds nodes edges targets, Enabled nodes i :=
    fun i hi => henabled i ((run_ids_sublist _ _ _).subset hi)
  rw [execution_order_eq, execution_order_eq, hids]
  congr 1
  · funext a
    exact successors_filter hrun a
  · funext a
    simp only [predecessors, successors_filter hrun]

/-- The order of a run does not ask in which order or how often targets are given. -/
theorem execution_order_congr_targets {ts ts' : List String} (h : ∀ t, t ∈ ts ↔ t ∈ ts') :
    executionOrder nodes edges (some ts) = executionOrder nodes edges (some ts') := by
  have hclosure : ∀ id, id ∈ closure edges (consideredIds nodes false) ts ↔
      id ∈ closure edges (consideredIds nodes false) ts' := fun id => by
    simp only [mem_closure, h]
  have hids : runIds nodes edges (some ts) = runIds nodes edges (some ts') :=
    List.filter_congr fun id _ => decide_eq_decide.2 (hclosure id)
  rw [execution_order_eq, execution_order_eq, hids]

/-- What the order of a run has to be. -/
structure IsRunOrder (nodes : List Node) (edges : List Edge) (targets : Option (List String))
    (order : List String) : Prop where
  nodup : order.Nodup
  /-- It lists the tasks of the run and no others. -/
  mem_iff : ∀ id, id ∈ order ↔ Covered nodes edges targets id
  /-- When no cycle is found, each task comes after all it requires. -/
  after_required : findCycle nodes edges false = none → ∀ a b, Requires nodes edges a b →
    b ∈ order → [a, b].Sublist order
  /-- In any case a task that is not behind a cycle of the run comes after all it requires. -/
  after_required_of_free : ∀ a b, Requires nodes edges a b → b ∈ order →
    ¬ FromCycle (RequiresInRun nodes edges targets) b → [a, b].Sublist order
  /-- The tasks behind a cycle of the run come last, as the nodes come. -/
  cycles_last : ∃ first last, order = first ++ last ∧
    (∀ id ∈ first, ¬ FromCycle (RequiresInRun nodes edges targets) id) ∧
    (∀ id ∈ last, FromCycle (RequiresInRun nodes edges targets) id) ∧
    last.Sublist (nodes.map Node.id)

/-- The order of a run lists the tasks of the run and no others. -/
theorem mem_execution_order : id ∈ executionOrder nodes edges targets ↔
    Covered nodes edges targets id := by
  obtain ⟨first, rest, heq, -, -, hmem, -, hmemRest⟩ := execution_order_split nodes edges targets
  rw [heq, List.mem_append, hmem, hmemRest]
  tauto

/-- The order of a run names no task twice. -/
theorem execution_order_nodup (nodes : List Node) (edges : List Edge)
    (targets : Option (List String)) : (executionOrder nodes edges targets).Nodup := by
  obtain ⟨first, rest, heq, hfirst, -, hmem, hrest, hmemRest⟩ :=
    execution_order_split nodes edges targets
  rw [heq]
  refine List.nodup_append.2 ⟨hfirst,
    (considered_ids_nodup nodes false).sublist (hrest.trans (run_ids_sublist _ _ _)), ?_⟩
  rintro a ha _ hb rfl
  exact ((hmem a).1 ha).2 ((hmemRest a).1 hb).2

/-- The order of a run is what it has to be. -/
theorem is_run_order (hids : (nodes.map Node.id).Nodup) (edges : List Edge)
    (targets : Option (List String)) :
    IsRunOrder nodes edges targets (executionOrder nodes edges targets) := by
  obtain ⟨first, rest, heq, -, hordered, hmem, hrest, hmemRest⟩ :=
    execution_order_split nodes edges targets
  have hafter : ∀ a b, Requires nodes edges a b → b ∈ executionOrder nodes edges targets →
      ¬ FromCycle (RequiresInRun nodes edges targets) b →
      [a, b].Sublist (executionOrder nodes edges targets) := by
    intro a b hab hb hfree
    have hcovered := mem_execution_order.1 hb
    have hpred : a ∈ predecessors edges (runIds nodes edges targets) b := by
      rw [mem_predecessors, hard_edge_run_ids]
      exact ⟨hab, hcovered.of_requires hab, hcovered⟩
    have hsub := hordered.sublist ((hmem b).2 ⟨hcovered, hfree⟩) hpred
    rw [heq]
    exact hsub.trans (List.sublist_append_left _ _)
  refine ⟨execution_order_nodup nodes edges targets, fun id => mem_execution_order,
    fun hnone a b hab hb => hafter a b hab hb ?_, hafter, ?_⟩
  · have hacyclic := find_cycle_eq_none_iff.1 hnone
    rw [Acyclic, hard_edge_considered_ids] at hacyclic
    have hle : RequiresInRun nodes edges targets ≤ Requires nodes edges := fun _ _ h => h.1
    rintro ⟨c, hc, -⟩
    exact hacyclic c (TransGen.mono hle c c hc)
  · have hconsidered : rest.Sublist (consideredIds nodes false) :=
      hrest.trans (run_ids_sublist _ _ _)
    refine ⟨first, rest, heq, fun id h => ((hmem id).1 h).2, fun id h => ((hmemRest id).1 h).2, ?_⟩
    rw [considered_ids_eq hids] at hconsidered
    exact hconsidered.trans (List.filter_sublist.map _)

/-- The order of a run is what it has to be. The targets count as a set, and edges that are advisory
or touch a task that is not enabled do not count. -/
theorem execution_order_spec (nodes : List Node) (hids : (nodes.map Node.id).Nodup)
    (edges : List Edge) (targets : Option (List String)) :
    IsRunOrder nodes edges targets (executionOrder nodes edges targets) ∧
    (∀ ts ts', targets = some ts → (∀ t, t ∈ ts ↔ t ∈ ts') →
      executionOrder nodes edges (some ts') = executionOrder nodes edges targets) ∧
    (∀ edges', edges'.filter (countsForOrder nodes) = edges.filter (countsForOrder nodes) →
      executionOrder nodes edges' targets = executionOrder nodes edges targets) := by
  refine ⟨is_run_order hids edges targets, ?_, ?_⟩
  · rintro ts ts' rfl h
    exact (execution_order_congr_targets h).symm
  · intro edges' h
    rw [← execution_order_filter nodes edges', h, execution_order_filter]

/-- Three tasks in a row of which the second and the third wait for each other, a task that is
switched off, and an edge to nowhere. -/
theorem execution_order_spec_waiting_pair :
    let nodes : List Node := [⟨"c", "c", .custom, none, none, true, none, none, none⟩,
      ⟨"b", "b", .custom, none, none, true, none, none, none⟩,
      ⟨"off", "off", .custom, none, none, false, none, none, none⟩,
      ⟨"a", "a", .custom, none, none, true, none, none, none⟩]
    let edges : List Edge := [⟨"a", "b", .dependsOn⟩, ⟨"b", "c", .dependsOn⟩,
      ⟨"c", "b", .dependsOn⟩, ⟨"off", "a", .dependsOn⟩, ⟨"a", "nowhere", .dependsOn⟩]
    (nodes.map Node.id).Nodup ∧
      IsRunOrder nodes edges (some ["b", "b"]) (executionOrder nodes edges (some ["b", "b"])) ∧
      executionOrder nodes edges (some ["b"]) = executionOrder nodes edges (some ["b", "b"]) := by
  intro nodes edges
  have hids : (nodes.map Node.id).Nodup := by decide
  obtain ⟨horder, htargets, -⟩ := execution_order_spec nodes hids edges (some ["b", "b"])
  exact ⟨hids, horder, htargets _ _ rfl (by simp)⟩

end BuildGraph.Order
