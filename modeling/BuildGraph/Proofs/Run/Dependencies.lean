import BuildGraph.Proofs.Graph.WellFormed
import BuildGraph.Proofs.Run.Reached

/-!
# Dependencies in a run

`respects_dependencies` joins what is known of graphs, of orders and of runs: in a graph that
changes made of the empty one, whatever the targets, the work and the controls, a task is begun only
after all that it requires, directly or through others, was passed.
-/

open Relation

namespace BuildGraph

open Orchestrator

variable {r : Rules} {plan : RunPlan} {context : GuardContext} {log : List Event} {stage : Stage}

/-- What stands before an element of the front of a list, or before its next element, stands in the
front. -/
theorem mem_front_of_sublist {front back : List String} {a b next : String}
    (hnodup : (front ++ next :: back).Nodup) (hsub : [a, b].Sublist (front ++ next :: back))
    (hb : b ∈ front ∨ b = next) : a ∈ front := by
  obtain ⟨first, second, hsplit, hfirst, hsecond⟩ := List.sublist_append_iff.1 hsub
  cases first with
  | cons x first =>
      obtain rfl : a = x := by simpa using congrArg List.head? hsplit
      exact hfirst.subset (by simp)
  | nil =>
      obtain rfl : [a, b] = second := hsplit
      -- both stand at the next element or behind it, but the second is there or in front of it
      have hback : b ∈ back := by
        cases hsecond with
        | cons _ h => exact h.subset (by simp)
        | cons_cons _ h => exact h.subset (by simp)
      obtain ⟨-, htail, hdisjoint⟩ := List.nodup_append.1 hnodup
      rcases hb with hb | rfl
      · exact absurd rfl (hdisjoint b hb b (List.mem_cons_of_mem _ hback))
      · exact absurd hback (List.nodup_cons.1 htail).1

/-- A task that is required by the next one was visited. -/
theorem RunLog.mem_visited_of_requires (hgraph : plan.graph.Reachable)
    {visited remaining : List String} {id required : String}
    (h : RunLog r plan context log (.between visited (id :: remaining)))
    (hrequires : TransGen (Order.Requires plan.graph.nodes plan.graph.edges) required id) :
    required ∈ visited := by
  have hwell := hgraph.well_formed
  have horder : visited ++ id :: remaining = plan.order := h.order_eq
  have hrun : Order.IsRunOrder plan.graph.nodes plan.graph.edges plan.targets
      (visited ++ id :: remaining) := horder ▸ Order.is_run_order hwell.nodes.ids _ _
  have hnone := find_cycle_enabled_eq_none_iff.2 hwell.edges.acyclic
  have hstep : ∀ a b, Order.Requires plan.graph.nodes plan.graph.edges a b →
      (b ∈ visited ∨ b = id) → a ∈ visited := fun a b hab hb => by
    refine mem_front_of_sublist hrun.nodup (hrun.after_required hnone a b hab ?_) hb
    rcases hb with hb | rfl
    · exact List.mem_append_left _ hb
    · exact List.mem_append_right _ (List.mem_cons_self ..)
  induction hrequires using TransGen.head_induction_on with
  | single hab => exact hstep _ _ hab (.inr rfl)
  | head hab _ ih => exact hstep _ _ hab (.inl ih)

/-- Tasks are begun only when all that they require was passed. -/
structure RespectsDependencies (plan : RunPlan) (context : GuardContext) (o : Orchestrator) :
    Prop where
  /-- When a task is begun, each enabled task with a `dependsOn` edge to it belongs to the run, as
  does each that it requires through others, and all of them succeeded or were kept from running by
  their own guards. -/
  begun : ∀ front e back, o.events = front ++ e :: back → e.kind = .taskStarted →
    ∃ n ∈ plan.graph.nodes, n.enabled = true ∧ e.taskId = some n.id ∧
      (∀ m ∈ plan.graph.nodes, m.enabled = true → ⟨m.id, n.id, .dependsOn⟩ ∈ plan.graph.edges →
        m.id ∈ plan.order ∧ Passed plan context (replay front) m.id) ∧
      ∀ required, TransGen (Order.Requires plan.graph.nodes plan.graph.edges) required n.id →
        required ∈ plan.order ∧ Passed plan context (replay front) required
  /-- The work is asked for when a task is begun, and for that task. -/
  asked : ∀ request ∈ o.asked, ∃ e ∈ o.events, e.kind = .taskStarted ∧
    e.taskId = some request.taskId

/-- Runs of graphs that changes made of the empty one respect dependencies, whatever the targets,
the work and the controls. -/
theorem respects_dependencies {o : Orchestrator} (hgraph : plan.graph.Reachable)
    (h : Reached ⟨true, true⟩ plan o) :
    RespectsDependencies plan (plan.guardContext o.surrounding) o := by
  obtain ⟨stage, hfollows, -⟩ := h.tracks
  refine ⟨fun front e back hlog hkind => ?_, fun request hrequest => ?_⟩
  · obtain ⟨before, after, hfront, hstep⟩ :=
      hfollows.log.at_event hlog (by simp [hkind, EventKind.isOpening])
    obtain ⟨visited, id, remaining, rfl, hid, -⟩ := hstep.of_started hkind
    have horder : visited ++ id :: remaining = plan.order := hfront.order_eq
    obtain ⟨n, hn, henabled, rfl⟩ :=
      (Order.mem_execution_order.1 (horder ▸ by simp : id ∈ plan.order)).enabled
    -- what the task requires comes before it in the order, so it had its turn and was passed
    have hpassed : ∀ required,
        TransGen (Order.Requires plan.graph.nodes plan.graph.edges) required n.id →
          required ∈ plan.order ∧
            Passed plan (plan.guardContext o.surrounding) (replay front) required := by
      intro required hrequires
      have hvisited := hfront.mem_visited_of_requires hgraph hrequires
      have hmem : required ∈ plan.order := horder ▸ List.mem_append_left _ hvisited
      exact ⟨hmem, hfront.passed hmem (hfront.marked.1 required hvisited)⟩
    refine ⟨n, hn, henabled, hid, fun m hm hmenabled hedge => hpassed m.id (.single ?_), hpassed⟩
    exact ⟨hedge, ⟨m, hm, hmenabled, rfl⟩, n, hn, henabled, rfl⟩
  · rw [hfollows.asked] at hrequest
    obtain ⟨id, hid, hrequest⟩ := List.mem_filterMap.1 hrequest
    obtain ⟨n, hnode, rfl⟩ := Option.map_eq_some_iff.1 hrequest
    -- what the work was asked for are the tasks that the log says were begun
    obtain ⟨e, he, hstarted⟩ := List.mem_filterMap.1 hid
    split at hstarted
    · next hkind => exact ⟨e, he, hkind, by rw [hstarted, RunPlan.request, Graph.id_of_node? hnode]⟩
    · cases hstarted

/-- The second of two tasks begins after the first one. -/
theorem respects_dependencies_pair :
    let changes : List GraphChange := [
      .addNode { id := "b", name := "second" }, .addNode { id := "a", name := "first" },
      .addEdge "a" "b" .dependsOn]
    let plan : RunPlan := { graph := changes.foldl Graph.after Graph.empty, targets := some ["b"] }
    let idle : Orchestrator := { clock := .stepping ⟨0, none⟩ 1 }
    ∃ begun, idle.start plan = .ok begun ∧
      let o := [.report "line", .finish (.returned {})].foldl (Move.apply plan) begun
      plan.graph.Reachable ∧ o.events.map (fun e => (e.kind.name, e.taskId)) = [
        ("runStarted", none), ("taskStarted", some "a"), ("taskOutput", some "a"),
        ("taskCompleted", some "a"), ("taskStarted", some "b")] ∧
        RespectsDependencies plan (plan.guardContext o.surrounding) o := by
  intro changes plan idle
  obtain ⟨begun, hbegun⟩ : ∃ begun, idle.start plan = .ok begun := ⟨_, rfl⟩
  have hgraph : plan.graph.Reachable := ⟨changes, rfl⟩
  refine ⟨begun, hbegun, hgraph, ?_,
    respects_dependencies hgraph ((Reached.started hbegun).play ⟨trivial, trivial, trivial⟩)⟩
  obtain rfl := Except.ok.inj hbegun
  decide +kernel

end BuildGraph
