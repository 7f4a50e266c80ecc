import BuildGraph.Proofs.Graph.Accepted
import BuildGraph.Proofs.Run.Reached

/-!
# Runs to the end

`ran_to_end` says how a run went that returned, whatever its work did and whenever controls were
called: its log is framed by its start and its end, the tasks in front were passed, and either there
are no others, or the next one failed and the rest is skipped because of it, or none of the rest was
begun. The work was asked for once for each task that succeeded or failed, and what the log holds
between the begin and the end of a task belongs to that task or is a control. A guard that cannot be
evaluated keeps a run from returning: `guard_breaks_off`.
-/

namespace BuildGraph

open Orchestrator

variable {r : Rules} {plan : RunPlan} {context : GuardContext} {log : List Event} {stage : Stage}
  {id : String}

section Courses

/-- No event is about a task. -/
def Untouched (log : List Event) (id : String) : Prop := ∀ e ∈ log, e.taskId ≠ some id

/-- The events about a task are the begin of the work on it, lines of it, and an end that leaves a
mark. Nothing but controls comes between them. -/
def Worked (log : List Event) (id : String) (m : Mark) : Prop :=
  ∃ front begun lines ended back, log = front ++ begun :: (lines ++ ended :: back) ∧
    begun.kind = .taskStarted ∧ begun.taskId = some id ∧ (∀ e ∈ lines, IsDuring id e) ∧
    ended.kind.mark? = some m ∧ ended.taskId = some id ∧ Untouched front id ∧ Untouched back id

/-- The only event about a task is that it is skipped. -/
def SkippedOnce (log : List Event) (id : String) : Prop :=
  ∃ front e back, log = front ++ e :: back ∧ (∃ reason, e.kind = .taskSkipped reason) ∧
    e.taskId = some id ∧ Untouched front id ∧ Untouched back id

/-- An event about a task leaves a mark on it or comes while the work on it is under way. -/
theorem RunLog.mark_or_started (hr : r.strays = false) (h : RunLog r plan context log stage)
    {front back : List Event} {e : Event} (hlog : log = front ++ e :: back)
    (hid : e.taskId = some id) : (∃ m, e.kind.mark? = some m) ∨ marks id front = [.started] := by
  obtain ⟨before, after, hfront, hstep⟩ := h.at_task_event hlog hid
  cases hstep with
  | control _ _ _ hnone | finished _ _ hnone => simp [hid] at hnone
  | output _ hn =>
      obtain rfl := Option.some.inj (hid.symm.trans hn)
      exact .inr hfront.marked.2.2.1
  | stray hstray => simp [hr] at hstray
  | passed _ _ _ hkind | began _ _ _ _ hkind | completed hkind | failed hkind | skipped hkind =>
      simp [hkind, EventKind.mark?]

/-- A part of a log without marks on a task has no event about it, unless the work on it is under
way. -/
theorem RunLog.untouched (hr : r.strays = false) (h : RunLog r plan context log stage)
    (front middle back : List Event) (hlog : log = front ++ (middle ++ back))
    (hmiddle : marks id middle = []) (hfront : marks id front ≠ [.started]) :
    Untouched middle id := by
  intro e he hid
  obtain ⟨before, after, rfl⟩ := List.append_of_mem he
  rw [marks_append, marks_cons, List.append_eq_nil_iff, List.append_eq_nil_iff] at hmiddle
  have hlog' : log = (front ++ before) ++ e :: (after ++ back) := by simp [hlog]
  rcases h.mark_or_started hr hlog' hid with ⟨m, hm⟩ | hstarted
  · simp [Event.mark?, hid, hm] at hmiddle
  · rw [marks_append, hmiddle.1, List.append_nil] at hstarted
    exact hfront hstarted

/-- Lines of work and controls leave no mark. -/
theorem marks_during {lines : List Event} (h : ∀ e ∈ lines, IsDuring id e) :
    marks id lines = [] := by
  refine List.filterMap_eq_nil_iff.2 fun e he => ?_
  have hkind : e.kind.mark? = none := by
    rcases h e he with ⟨hkind, -⟩ | hkind
    · exact EventKind.mark?_of_is_output hkind
    · exact EventKind.mark?_of_is_control hkind
  simp [Event.mark?, hkind]

/-- The work on a task that was begun and came to an end. -/
theorem RunLog.worked (hr : r.strays = false) (h : RunLog r plan context log stage) {m : Mark}
    (hm : m = .completed ∨ m = .failed) (hmarks : marks id log = [.started, m]) :
    Worked log id m := by
  obtain ⟨ended, hended, hid, hmark⟩ := mem_marks.1 (show m ∈ marks id log by simp [hmarks])
  obtain ⟨before, back, rfl⟩ := List.append_of_mem hended
  obtain ⟨stage', after, hbefore, hstep⟩ := h.at_task_event rfl hid
  -- Only the step that ends the work on the task leaves such a mark.
  obtain ⟨visited, n, remaining, rfl, rfl⟩ :
      ∃ visited n remaining, stage' = .working visited n remaining ∧ n.id = id := by
    cases hstep with
    | completed _ hn | failed _ hn => exact ⟨_, _, _, rfl, Option.some.inj (hn.symm.trans hid)⟩
    | control _ _ hkind => simp [EventKind.mark?_of_is_control hkind] at hmark
    | output hkind | stray _ _ hkind => simp [EventKind.mark?_of_is_output hkind] at hmark
    | passed _ _ _ hkind | began _ _ _ _ hkind | skipped hkind | finished _ hkind =>
        rcases hm with rfl | rfl <;> simp [hkind, EventKind.mark?] at hmark
  obtain ⟨front, begun, lines, rfl, hkind, hbegun, hlines⟩ := hbefore.underway hr
  have hbegun' : begun.mark? n.id = some .started :=
    Event.mark?_eq_some.2 ⟨hbegun, EventKind.mark?_eq_started.2 hkind⟩
  have hended' : ended.mark? n.id = some m := Event.mark?_eq_some.2 ⟨hid, hmark⟩
  have hduring := marks_during hlines
  -- The task has two marks in all, so there is none before its start and none after its end.
  obtain ⟨hfront, hback⟩ : marks n.id front = [] ∧ marks n.id back = [] := by
    have hlength := congrArg List.length hmarks
    simp [marks_cons, hduring, hbegun', hended'] at hlength
    exact ⟨List.length_eq_zero_iff.1 (by omega), List.length_eq_zero_iff.1 (by omega)⟩
  refine ⟨front, begun, lines, ended, back, by simp, hkind, hbegun, hlines, hmark, hid, ?_, ?_⟩
  · exact h.untouched hr [] front (begun :: (lines ++ ended :: back)) (by simp) hfront
      (by simp [marks])
  · exact h.untouched hr (front ++ begun :: (lines ++ [ended])) back [] (by simp) hback
      (by simp [marks_cons, hduring, hbegun', hended', hfront])

/-- A task that was only skipped. -/
theorem RunLog.skipped_once (hr : r.strays = false) (h : RunLog r plan context log stage)
    {reason : Option String} (hmarks : marks id log = [.skipped reason]) : SkippedOnce log id := by
  obtain ⟨e, he, hid, hmark⟩ :=
    mem_marks.1 (show .skipped reason ∈ marks id log by simp [hmarks])
  obtain ⟨front, back, rfl⟩ := List.append_of_mem he
  have he' : e.mark? id = some (.skipped reason) := Event.mark?_eq_some.2 ⟨hid, hmark⟩
  obtain ⟨hfront, hback⟩ : marks id front = [] ∧ marks id back = [] := by
    have hlength := congrArg List.length hmarks
    simp [marks_cons, he'] at hlength
    exact ⟨List.length_eq_zero_iff.1 (by omega), List.length_eq_zero_iff.1 (by omega)⟩
  refine ⟨front, e, back, rfl, ⟨reason, EventKind.mark?_eq_skipped.1 hmark⟩, hid, ?_, ?_⟩
  · exact h.untouched hr [] front (e :: back) (by simp) hfront (by simp [marks])
  · exact h.untouched hr (front ++ [e]) back [] (by simp) hback (by simp [he', hfront])

end Courses

section Ending

/-- A log is framed by the start and the end of its run. -/
theorem RunLog.framed {last : Stage} (h : RunLog r plan context log (.ended last)) :
    ∃ first names body final cancelled, log = first :: (body ++ [final]) ∧
      first.kind = .runStarted plan.order names ∧ final.kind = .runFinished (some cancelled) ∧
      ∀ e ∈ body, e.kind.isOpening = false ∧ ∀ c, e.kind ≠ .runFinished c := by
  obtain ⟨front, final, cancelled, rfl, hfront, hends, hfinal⟩ := h.ended
  obtain ⟨first, names, body, rfl, hfirst, -, hbody⟩ := hfront.head
  refine ⟨first, names, body, final, cancelled, rfl, hfirst, hfinal, fun e he => ⟨hbody e he, ?_⟩⟩
  refine hfront.not_finished ?_ (List.mem_cons_of_mem _ he)
  rintro ended rfl
  cases hends

/-- What is left of the tasks when a run returned. -/
theorem RunLog.settled {last : Stage} (h : RunLog r plan context log (.ended last))
    (hid : id ∈ plan.order) :
    marks id log = [] ∨ marks id log = [.started, .completed] ∨
      marks id log = [.started, .failed] ∨ ∃ reason, marks id log = [.skipped reason] := by
  have hpassed : PassMarks plan context log id → marks id log = [.started, .completed] ∨
      marks id log = [.started, .failed] ∨ ∃ reason, marks id log = [.skipped reason] := by
    rintro (hmarks | ⟨_, _, -, -, hmarks⟩)
    · exact .inl hmarks
    · exact .inr (.inr ⟨_, hmarks⟩)
  obtain ⟨_, _, _, -, -, hends, -⟩ := h.ended
  have hmarked := h.marked
  rw [← h.order_eq] at hid
  cases hends with
  | all | cancelled =>
      rcases List.mem_append.1 hid with hid | hid
      · exact .inr (hpassed (hmarked.1 id hid))
      · exact .inl (hmarked.2 id hid)
  | failed =>
      obtain ⟨hvisited, -, hn, hskipped, -⟩ := hmarked
      simp only [Stage.entered, Stage.ahead, List.append_nil] at hid
      rcases List.mem_append.1 hid with hid | hid
      · exact .inr (hpassed (hvisited id hid))
      · rcases List.mem_cons.1 hid with rfl | hid
        · exact .inr (.inr (.inl hn))
        · exact .inr (.inr (.inr ⟨_, hskipped id hid⟩))

/-- The tasks in front were passed, and either there are no others, or the next one failed and the
rest is skipped, or none of the rest was begun. -/
def StopsAt (plan : RunPlan) (context : GuardContext) (s : RunState) (k : Nat) : Prop :=
  (∀ id ∈ plan.order.take k, Passed plan context s id) ∧
    (k = plan.order.length ∨
      (∃ n later, plan.graph.node? n.id = some n ∧ plan.order.drop k = n.id :: later ∧
        s.statusOf n.id = .failed ∧ ∀ id ∈ later, s.statusOf id = .skipped ∧
          (s.resultOf (some id)).skipReason = some (skipWords n)) ∨
      ∀ id ∈ plan.order.drop k, s.statusOf id = .pending)

theorem RunLog.stops_at {last : Stage} (h : RunLog r plan context log (.ended last)) :
    ∃ k ≤ plan.order.length, StopsAt plan context (replay log) k := by
  obtain ⟨_, _, _, -, -, hends, -⟩ := h.ended
  have hmarked := h.marked
  have horder := h.order_eq
  -- The tasks visited are those in front, and how the run ended tells what became of the rest.
  cases hends with
  | @all visited =>
      simp only [Stage.entered, Stage.ahead, List.append_nil] at horder
      subst horder
      refine ⟨_, le_rfl, fun id hid => ?_, .inl rfl⟩
      rw [List.take_length] at hid
      exact h.passed hid (hmarked.1 id hid)
  | @cancelled visited id remaining =>
      simp only [Stage.entered, Stage.ahead] at horder
      refine ⟨visited.length, by simp [← horder], fun id hid => ?_, .inr (.inr fun id hid => ?_)⟩
      · rw [← horder, List.take_left] at hid
        exact h.passed (horder ▸ List.mem_append_left _ hid) (hmarked.1 id hid)
      · rw [← horder, List.drop_left] at hid
        rw [h.status_of (horder ▸ List.mem_append_right _ hid), hmarked.2 id hid]
        rfl
  | @failed visited n skipped =>
      obtain ⟨hvisited, hnode, hn, hskipped, -⟩ := hmarked
      simp only [Stage.entered, Stage.ahead, List.append_nil] at horder
      refine ⟨visited.length, by simp [← horder], fun id hid => ?_,
        .inr (.inl ⟨n, skipped, hnode, ?_, ?_, fun id hid => ⟨?_, ?_⟩⟩)⟩
      · rw [← horder, List.take_left] at hid
        exact h.passed (horder ▸ List.mem_append_left _ hid) (hvisited id hid)
      · rw [← horder, List.drop_left]
      · rw [h.status_of (by simp [← horder]), hn]
        rfl
      · rw [h.status_of (by simp [← horder, hid]), hskipped id hid]
        rfl
      · exact h.skip_reason_of (by simp [← horder, hid]) (by rw [hskipped id hid]; rfl)

end Ending

/-- How a run went that returned. -/
structure RanToEnd (plan : RunPlan) (context : GuardContext) (o : Orchestrator) : Prop where
  /-- The log is framed by the start and the end of the run, which come once. -/
  framed : ∃ first names body final cancelled, o.events = first :: (body ++ [final]) ∧
    first.kind = .runStarted plan.order names ∧ final.kind = .runFinished (some cancelled) ∧
    ∀ e ∈ body, e.kind.isOpening = false ∧ ∀ c, e.kind ≠ .runFinished c
  fail_fast : ∃ k ≤ plan.order.length, StopsAt plan context o.state k
  /-- The work was asked for once for each task that succeeded or failed, in order, and for no
  other. -/
  asked : o.asked = (plan.order.filter fun id =>
    o.state.statusOf id = .success ∨ o.state.statusOf id = .failed).filterMap fun id =>
      (plan.graph.node? id).map plan.request
  succeeded : ∀ id ∈ plan.order, o.state.statusOf id = .success → Worked o.events id .completed
  failed : ∀ id ∈ plan.order, o.state.statusOf id = .failed → Worked o.events id .failed
  skipped : ∀ id ∈ plan.order, o.state.statusOf id = .skipped → SkippedOnce o.events id
  pending : ∀ id ∈ plan.order, o.state.statusOf id = .pending → Untouched o.events id

/-- A run that returns went to its end in good order, whatever its work did and whenever controls
were called, when no line came from work that the run did not wait for. A run does not return when
the work is called off, or when a guard cannot be evaluated. -/
theorem ran_to_end {o : Orchestrator} (h : Reached ⟨false, true⟩ plan o)
    (hended : o.phase = .idle none) : RanToEnd plan (plan.guardContext o.surrounding) o := by
  obtain ⟨last, hlog, hstate, -, hasked⟩ := h.tracks.ended hended
  have hstatus : ∀ id ∈ plan.order, o.state.statusOf id =
      ((marks id o.events).getLast?.map Mark.status).getD .pending :=
    fun id hid => hstate ▸ hlog.status_of hid
  refine ⟨hlog.framed, hstate ▸ hlog.stops_at, ?_, fun id hid hs => ?_, fun id hid hs => ?_,
    fun id hid hs => ?_, fun id hid hs => ?_⟩
  · rw [hasked, hlog.started_ids]
    congr 1
    refine List.filter_congr fun id hid => ?_
    rw [hstatus id hid]
    rcases hlog.settled hid with hm | hm | hm | ⟨reason, hm⟩ <;> simp [hm, Mark.status]
  -- The status of a task leaves one possibility for its marks.
  all_goals
    rw [hstatus id hid] at hs
    rcases hlog.settled hid with hm | hm | hm | ⟨reason, hm⟩ <;> simp [hm, Mark.status] at hs
  · exact hlog.worked rfl (.inl rfl) hm
  · exact hlog.worked rfl (.inr rfl) hm
  · exact hlog.skipped_once rfl hm
  · exact hlog.untouched rfl [] o.events [] (by simp) hm (by simp [marks])

/-- The first of two tasks reports a line and fails after a pause was called. -/
theorem ran_to_end_failure :
    let plan : RunPlan := { graph := {
      nodes := [{ id := "a", name := "first" }, { id := "b", name := "second" }]
      edges := [{ source := "a", target := "b" }] } }
    let idle : Orchestrator := { clock := .stepping ⟨0, none⟩ 1 }
    let moves := [.report "line", .control .pause, .finish (.returned { success := false })]
    ∃ begun, idle.start plan = .ok begun ∧
      let o := moves.foldl (Move.apply plan) begun
      o.phase = .idle none ∧ plan.order.map o.state.statusOf = [.failed, .skipped] ∧
        RanToEnd plan (plan.guardContext o.surrounding) o := by
  intro plan idle moves
  obtain ⟨begun, hbegun⟩ : ∃ begun, idle.start plan = .ok begun := ⟨_, rfl⟩
  refine ⟨begun, hbegun, ?_⟩
  intro o
  have hreached : Reached ⟨false, true⟩ plan o :=
    (Reached.started hbegun).play ⟨trivial, .inl rfl, trivial, trivial⟩
  have hended : o.phase = .idle none ∧ plan.order.map o.state.statusOf = [.failed, .skipped] := by
    obtain rfl := Except.ok.inj hbegun
    decide +kernel
  exact ⟨hended.1, hended.2, ran_to_end hreached hended.1⟩

/-- A guard that cannot be evaluated breaks a run off: its pattern repeats a letter more often than
a pattern may. -/
theorem guard_breaks_off :
    let guard : Guard := {
      mode := .onlyIf
      conditions := [⟨⟨.literal, "a"⟩, .matches, ⟨.literal, "a\x7b4294967295\x7d"⟩⟩] }
    let node : Node := { id := "a", name := "first", condition := some guard }
    let plan : RunPlan := { graph := [GraphChange.addNode node].foldl Graph.after Graph.empty }
    let idle : Orchestrator := { clock := .stepping ⟨0, none⟩ 1 }
    ∃ o, idle.start plan = .ok o ∧ Reached ⟨false, true⟩ plan o ∧ plan.graph.Reachable ∧
      o.phase = .idle (some (.guard .repetitionTooLarge)) ∧
      o.events.map (fun e => e.kind.name) = ["runStarted"] ∧
      o.state.statusOf "a" = .pending := by
  intro guard node plan idle
  obtain ⟨o, ho⟩ : ∃ o, idle.start plan = .ok o := ⟨_, rfl⟩
  refine ⟨o, ho, .started ho, ⟨_, rfl⟩, ?_⟩
  obtain rfl := Except.ok.inj ho
  decide +kernel

end BuildGraph
