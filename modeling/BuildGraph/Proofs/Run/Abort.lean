import BuildGraph.Proofs.Graph.Accepted
import BuildGraph.Proofs.Run.FailFast

/-!
# Aborts

`abort_spec` says what an abort does to a run that is under way, and when a run that returned was
cancelled: when a task is still pending, which is so when an abort came in time, before some task
had its turn and with no failure after it. A run that does not return, because a guard cannot be
evaluated, may leave tasks pending without being cancelled: `pending_not_cancelled`.
-/

namespace BuildGraph

open Orchestrator

variable {r : Rules} {plan : RunPlan} {context : GuardContext} {log : List Event} {stage : Stage}
  {id : String}

section Logs

/-- A task skipped because of another is not skipped for its guard. -/
theorem skip_words_ne_message (n : Node) (refusal : GuardRefusal) :
    skipWords n ≠ refusal.message := by
  intro h
  have hchars : "Skipped because task \"".toList ++ (n.name.toList ++ "\" failed".toList) =
      refusal.message.toList := by
    rw [← h, ← List.append_assoc, ← String.toList_append, ← String.toList_append]
    rfl
  have hninth := congrArg (fun s => s[8]?) hchars
  cases refusal <;> simp [GuardRefusal.message] at hninth

/-- An event after an abort was a step at its time. -/
theorem RunLog.step_after_abort (h : RunLog r plan context log stage) {front back : List Event}
    {e : Event} (hlog : log = front ++ e :: back) (habort : Aborted front) :
    ∃ before after, RunLog r plan context front before ∧
      LogStep r plan context front before e after := by
  obtain ⟨abort, hmem, -⟩ := habort
  obtain ⟨first, second, rfl⟩ := List.append_of_mem hmem
  have hsplit : log = first ++ abort :: (second ++ e :: back) := by simp [hlog]
  exact h.at_event hlog (h.not_opening_of_mem_tail hsplit (by simp))

/-- After an abort no task is begun, none is skipped for its guard, and no control is obeyed. -/
theorem RunLog.after_abort (h : RunLog r plan context log stage) {front back : List Event}
    {e : Event} (hlog : log = front ++ e :: back) (habort : Aborted front) :
    e.kind ≠ .taskStarted ∧
      (∀ refusal : GuardRefusal, e.kind ≠ .taskSkipped (some refusal.message)) ∧
      e.kind.isControl = false := by
  obtain ⟨before, after, -, hstep⟩ := h.step_after_abort hlog habort
  cases hstep with
  | control _ hnot | passed hnot | began hnot => exact absurd habort hnot
  | output hkind | stray _ _ hkind =>
      cases he : e.kind <;> simp_all [EventKind.isOutput, EventKind.isControl]
  | completed hkind | failed hkind | finished _ hkind => simp [hkind, EventKind.isControl]
  | @skipped _ n _ _ _ _ hkind =>
      simp [hkind, EventKind.isControl, skip_words_ne_message n]

/-- A run that was aborted gives no task its turn unless one fails. -/
theorem RunLog.no_turn_after_abort (h : RunLog r plan context log stage)
    (hfailed : stage.hasFailed = false) {front back : List Event} {e : Event}
    (hlog : log = front ++ e :: back) (habort : Aborted front) :
    e.kind.mark? ≠ some .started ∧ ∀ reason, e.kind.mark? ≠ some (.skipped reason) := by
  obtain ⟨before, after, hfront, hstep⟩ := h.step_after_abort hlog habort
  cases hstep with
  | control _ hnot | passed hnot | began hnot => exact absurd habort hnot
  | output hkind | stray _ _ hkind => simp [EventKind.mark?_of_is_output hkind]
  | completed hkind | failed hkind | finished _ hkind => simp [hkind, EventKind.mark?]
  | skipped =>
      obtain ⟨x, hx, hmark⟩ := hfront.has_failed_iff.2 rfl
      have hsome := h.has_failed_iff.1 ⟨x, by simp [hlog, hx], hmark⟩
      simp [hfailed] at hsome

/-- The abort came in time: a task had not had its turn, and none failed after it. -/
def AbortedInTime (plan : RunPlan) (log : List Event) : Prop :=
  ∃ front abort back, log = front ++ abort :: back ∧ abort.kind = .runAborted ∧
    (∃ id ∈ plan.order, marks id front = []) ∧ ∀ e ∈ back, e.kind.mark? ≠ some .failed

/-- A run in which a task failed was not aborted in time: no control is heeded after a failure. -/
theorem RunLog.not_aborted_in_time_of_failed (h : RunLog r plan context log stage)
    (hfailed : stage.hasFailed = true) : ¬ AbortedInTime plan log := by
  rintro ⟨front, abort, back, hlog, habort, -, hback⟩
  obtain ⟨before, after, hfront, hstep⟩ :=
    h.at_event hlog (by simp [habort, EventKind.isOpening])
  -- An abort that is in the log was obeyed, so no task had failed before it.
  have hopen : before.isOpen = true := by
    cases hstep with
    | control hopen => exact hopen
    | output hkind | stray _ _ hkind => simp [habort, EventKind.isOutput] at hkind
    | passed _ _ _ hkind | began _ _ _ _ hkind | completed hkind | failed hkind | skipped hkind
    | finished _ hkind => simp [habort] at hkind
  obtain ⟨e, he, hmark⟩ := h.has_failed_iff.2 hfailed
  rw [hlog] at he
  rcases List.mem_append.1 he with he | he
  · have hbefore := hfront.has_failed_iff.1 ⟨e, he, hmark⟩
    cases before <;> simp_all [Stage.isOpen, Stage.hasFailed]
  · rcases List.mem_cons.1 he with rfl | he
    · simp [habort, EventKind.mark?] at hmark
    · exact hback e he hmark

/-- A run in which every task had its turn, and none failed, was not aborted in time. -/
theorem RunLog.not_aborted_in_time_of_entered (h : RunLog r plan context log stage)
    (hfailed : stage.hasFailed = false) (hall : stage.ahead = []) : ¬ AbortedInTime plan log := by
  rintro ⟨front, abort, back, hlog, habort, ⟨id, hid, hnone⟩, -⟩
  rw [← h.order_eq, hall, List.append_nil] at hid
  -- The mark that the task has in the end was left after the abort.
  have hlate : ∀ m ∈ marks id log, ∃ e ∈ back, e.kind.mark? = some m := by
    intro m hm
    rw [hlog, marks_append, hnone, List.nil_append, marks_cons] at hm
    rcases List.mem_append.1 hm with hm | hm
    · simp [Event.mark?, habort, EventKind.mark?] at hm
    · obtain ⟨e, he, -, hmark⟩ := mem_marks.1 hm
      exact ⟨e, he, hmark⟩
  have hturn : ∀ e ∈ back,
      e.kind.mark? ≠ some .started ∧ ∀ reason, e.kind.mark? ≠ some (.skipped reason) := by
    intro e he
    obtain ⟨first, second, rfl⟩ := List.append_of_mem he
    have hsplit : log = (front ++ abort :: first) ++ e :: second := by simp [hlog]
    exact h.no_turn_after_abort hfailed hsplit ⟨abort, by simp, habort⟩
  rcases h.marked.entered id hid with hm | ⟨reason, hm⟩
  · obtain ⟨e, he, hmark⟩ := hlate _ hm
    exact (hturn e he).1 hmark
  · obtain ⟨e, he, hmark⟩ := hlate _ hm
    exact (hturn e he).2 reason hmark

/-- A run that was aborted before some task had its turn, and in which none failed, was aborted in
time. -/
theorem RunLog.aborted_in_time (h : RunLog r plan context log stage)
    (hfailed : stage.hasFailed = false) (hahead : stage.ahead ≠ []) (habort : Aborted log) :
    AbortedInTime plan log := by
  obtain ⟨abort, hmem, hkind⟩ := habort
  obtain ⟨front, back, rfl⟩ := List.append_of_mem hmem
  obtain ⟨id, hid⟩ := List.exists_mem_of_ne_nil _ hahead
  refine ⟨front, abort, back, rfl, hkind, ⟨id, h.order_eq ▸ List.mem_append_right _ hid, ?_⟩,
    fun e he hmark => ?_⟩
  · have hnone := h.marked.ahead id hid
    rw [marks_append, List.append_eq_nil_iff] at hnone
    exact hnone.1
  · have hsome := h.has_failed_iff.1 ⟨e, by simp [he], hmark⟩
    simp [hfailed] at hsome

/-- The tasks without a mark are those that did not have their turn. -/
theorem RunLog.marks_eq_nil_iff (h : RunLog r plan context log stage) (hid : id ∈ plan.order) :
    marks id log = [] ↔ id ∈ stage.ahead := by
  refine ⟨fun hmarks => ?_, h.marked.ahead id⟩
  rw [← h.order_eq] at hid
  refine (List.mem_append.1 hid).resolve_left fun hentered => ?_
  rcases h.marked.entered id hentered with hm | ⟨reason, hm⟩ <;> simp [hmarks] at hm

section Returned

variable {last : Stage}

/-- The tasks that are pending when a run returned are those that did not have their turn. -/
theorem RunLog.pending_iff (h : RunLog r plan context log (.ended last)) (hid : id ∈ plan.order) :
    (replay log).statusOf id = .pending ↔ id ∈ last.ahead := by
  have hahead : marks id log = [] ↔ id ∈ last.ahead := h.marks_eq_nil_iff hid
  rw [h.status_of hid, ← hahead]
  rcases h.settled hid with hm | hm | hm | ⟨reason, hm⟩ <;> simp [hm, Mark.status]

/-- A task that had its turn when a run returned is done with. -/
theorem RunLog.is_terminal (h : RunLog r plan context log (.ended last)) (hid : id ∈ plan.order)
    (hentered : id ∉ last.ahead) : ((replay log).statusOf id).isTerminal = true := by
  have hmarks : marks id log ≠ [] := fun hnone => hentered ((h.marks_eq_nil_iff hid).1 hnone)
  rw [h.status_of hid]
  rcases h.settled hid with hm | hm | hm | ⟨reason, hm⟩
  · exact absurd hm hmarks
  all_goals
    rw [hm]
    rfl

theorem RunLog.exists_pending_iff (h : RunLog r plan context log (.ended last)) :
    (∃ id ∈ plan.order, (replay log).statusOf id = .pending) ↔ last.ahead ≠ [] := by
  constructor
  · rintro ⟨id, hid, hpending⟩
    exact List.ne_nil_of_mem ((h.pending_iff hid).1 hpending)
  · intro hne
    obtain ⟨id, hahead⟩ := List.exists_mem_of_ne_nil _ hne
    have hid : id ∈ plan.order := h.order_eq ▸ List.mem_append_right _ hahead
    exact ⟨id, hid, (h.pending_iff hid).2 hahead⟩

/-- A run that returned was cancelled when tasks did not have their turn. -/
theorem RunLog.cancelled_iff (h : RunLog r plan context log (.ended last)) :
    (replay log).cancelled = true ↔ last.ahead ≠ [] := by
  obtain ⟨front, final, cancelled, rfl, -, hends, hfinal⟩ := h.ended
  rw [replay_concat, RunState.cancelled_apply_finished hfinal]
  cases hends <;> simp [Stage.ahead]

/-- Tasks did not have their turn when a run was aborted in time. -/
theorem RunLog.aborted_in_time_iff (h : RunLog r plan context log (.ended last)) :
    AbortedInTime plan log ↔ last.ahead ≠ [] := by
  obtain ⟨front, final, cancelled, hsplit, -, hends, -⟩ := h.ended
  cases hends with
  | all => simp [Stage.ahead, h.not_aborted_in_time_of_entered rfl rfl]
  | failed => simp [Stage.ahead, h.not_aborted_in_time_of_failed rfl]
  | cancelled habort =>
      have haborted : Aborted log := hsplit ▸ aborted_append.2 (.inl habort)
      simp [Stage.ahead, h.aborted_in_time rfl (by simp [Stage.ahead]) haborted]

end Returned

end Logs

section Runs

/-- How an abort is heeded by a run that is under way. -/
structure HeedsAbort (plan : RunPlan) (o : Orchestrator) : Prop where
  /-- After an abort no task is begun, none is skipped for its guard, and no control is obeyed. -/
  nothing_begins : ∀ front e back, o.events = front ++ e :: back → Aborted front →
    e.kind ≠ .taskStarted ∧
      (∀ refusal : GuardRefusal, e.kind ≠ .taskSkipped (some refusal.message)) ∧
      e.kind.isControl = false
  /-- A call to abort is obeyed, or was before. -/
  obeyed : o.isRunning = true → ∃ next, o.abort = .ok next ∧ next.aborted = true ∧
    Aborted next.events
  /-- A run that waits at the gate is released, and ends cancelled. -/
  released : ∀ p woken remaining, o.phase = .atGate p woken remaining → o.aborted = true →
    o.gateOpen = true ∧ o.wake.phase = .idle none ∧ o.wake.state.cancelled = true
  /-- Later calls leave everything as it is. -/
  ignored : o.isRunning = true → o.aborted = true →
    o.pause = .ok o ∧ o.resume = .ok o ∧ o.abort = .ok o

theorem Reached.heeds_abort {o : Orchestrator} (h : Reached ⟨true, true⟩ plan o) :
    HeedsAbort plan o where
  nothing_begins front e back hlog habort := by
    obtain ⟨stage, hfollows, -⟩ := h.tracks
    exact hfollows.log.after_abort hlog habort
  obeyed hrunning := by
    obtain ⟨stage, hfollows, -⟩ := h.tracks
    cases haborted : o.aborted with
    | false =>
        exact ⟨o.cancelled, by simp [abort, hrunning, haborted, cancelled], rfl, _,
          List.mem_append_right _ (List.mem_singleton_self _), rfl⟩
    | true =>
        exact ⟨o, by simp [abort, hrunning, haborted], haborted, hfollows.aborted.1 haborted⟩
  released p woken remaining hphase haborted := by
    obtain ⟨rfl, hne, visited, -, hgated⟩ := h.tracks.at_gate hphase
    obtain ⟨id, rest, rfl⟩ := List.exists_cons_of_ne_nil hne
    have hopen : o.gateOpen = true := by rw [hgated.gate, hgated.released haborted, Bool.not_false]
    -- an abort opens the gate, and the run that goes on behind it finishes at once
    have hwake : o.wake = o.finish true := by
      simp [Orchestrator.wake, hphase, hopen, enter, haborted]
    rw [hwake]
    exact ⟨hopen, rfl, RunState.cancelled_apply_finished rfl⟩
  ignored hrunning haborted := by
    obtain ⟨stage, -, -, -, hgated⟩ := h.tracks.running hrunning
    simp [pause, resume, abort, hrunning, haborted, hgated.released haborted]

/-- When a run that returned was cancelled. -/
structure CancelledInTime (plan : RunPlan) (o : Orchestrator) : Prop where
  /-- It was cancelled when a task is still pending. -/
  cancelled_iff : o.state.cancelled = true ↔ ∃ id ∈ plan.order, o.state.statusOf id = .pending
  /-- A task is still pending when an abort came in time. -/
  pending_iff : (∃ id ∈ plan.order, o.state.statusOf id = .pending) ↔ AbortedInTime plan o.events
  /-- Otherwise every task is done with. -/
  terminal : o.state.cancelled = false →
    ∀ id ∈ plan.order, (o.state.statusOf id).isTerminal = true

theorem Reached.cancelled_in_time {o : Orchestrator} (h : Reached ⟨true, true⟩ plan o)
    (hended : o.phase = .idle none) : CancelledInTime plan o := by
  obtain ⟨last, hlog, hstate, -, -⟩ := h.tracks.ended hended
  have hcancelled := hlog.cancelled_iff
  have hpending := hlog.exists_pending_iff
  have hterminal : ∀ id ∈ plan.order, id ∉ last.ahead →
      ((replay o.events).statusOf id).isTerminal = true := fun id hid => hlog.is_terminal hid
  rw [← hstate] at hcancelled hpending hterminal
  -- All three say whether tasks were left when the run returned.
  exact {
    cancelled_iff := hcancelled.trans hpending.symm
    pending_iff := hpending.trans hlog.aborted_in_time_iff.symm
    terminal := fun hnot id hid => hterminal id hid fun hahead => by
      simp [hcancelled.2 (List.ne_nil_of_mem hahead)] at hnot }

/-- Every run heeds an abort, whatever its work did and whenever controls were called, and every run
that returns says truly whether it was cancelled. -/
theorem abort_spec {o : Orchestrator} (h : Reached ⟨true, true⟩ plan o) :
    HeedsAbort plan o ∧ (o.phase = .idle none → CancelledInTime plan o) :=
  ⟨h.heeds_abort, h.cancelled_in_time⟩

/-- A run that is aborted during a pause. -/
theorem abort_spec_paused :
    let plan : RunPlan := { graph := {
      nodes := [{ id := "a", name := "first" }, { id := "b", name := "second" }] } }
    let idle : Orchestrator := { clock := .stepping ⟨0, none⟩ 1 }
    let moves := [.control .pause, .finish (.returned {}), .control .abort, .control .resume, .wake]
    ∃ begun, idle.start plan = .ok begun ∧
      let o := moves.foldl (Move.apply plan) begun
      plan.order.map o.state.statusOf = [.success, .pending] ∧ HeedsAbort plan o ∧
        CancelledInTime plan o := by
  intro plan idle moves
  obtain ⟨begun, hbegun⟩ : ∃ begun, idle.start plan = .ok begun := ⟨_, rfl⟩
  refine ⟨begun, hbegun, ?_⟩
  intro o
  have hreached : Reached ⟨true, true⟩ plan o :=
    (Reached.started hbegun).play ⟨.inl rfl, trivial, trivial, trivial, trivial, trivial⟩
  have hended : o.phase = .idle none ∧ plan.order.map o.state.statusOf = [.success, .pending] := by
    obtain rfl := Except.ok.inj hbegun
    decide +kernel
  exact ⟨hended.2, (abort_spec hreached).1, (abort_spec hreached).2 hended.1⟩

/-- A run that a guard breaks off leaves its task pending without being cancelled. -/
theorem pending_not_cancelled :
    let guard : Guard := {
      mode := .onlyIf
      conditions := [⟨⟨.literal, "a"⟩, .matches, ⟨.literal, "a\x7b4294967295\x7d"⟩⟩] }
    let node : Node := { id := "a", name := "first", condition := some guard }
    let plan : RunPlan := { graph := [GraphChange.addNode node].foldl Graph.after Graph.empty }
    let idle : Orchestrator := { clock := .stepping ⟨0, none⟩ 1 }
    ∃ o, idle.start plan = .ok o ∧ Reached ⟨true, true⟩ plan o ∧ plan.graph.Reachable ∧
      o.isRunning = false ∧ plan.order = ["a"] ∧ o.state.statusOf "a" = .pending ∧
      o.state.cancelled = false := by
  intro guard node plan idle
  obtain ⟨o, ho⟩ : ∃ o, idle.start plan = .ok o := ⟨_, rfl⟩
  refine ⟨o, ho, .started ho, ⟨_, rfl⟩, ?_⟩
  obtain rfl := Except.ok.inj ho
  decide +kernel

end Runs

end BuildGraph
