import BuildGraph.Proofs.Order.ExecutionOrder
import BuildGraph.Proofs.Run.Marks
import BuildGraph.Run.Orchestrator

/-!
# The logs of runs

Which logs a run may leave, told without the machine that writes them. A run is between two tasks,
works on one, or skips the rest after a failure; `LogStep` says with which events its log may go on
there and where that leads, and `RunLog` are the logs that begin with the start of the run and go
on in such steps.

At each stage a log says the same of every task that was entered or is still ahead (`marked`),
lists the work that was begun (`started_ids`), and holds a failure or none (`has_failed_iff`).
-/

namespace BuildGraph

/-- What may happen to a run from outside. -/
structure Rules where
  /-- Lines may come from work that the run does not wait for. -/
  strays : Bool
  /-- A pause may come while a run that was woken at the gate has not gone on. -/
  latePauses : Bool

/-- How far a run has come. -/
inductive Stage where
  /-- Some tasks were visited, and the others remain. -/
  | between (visited remaining : List String)
  | working (visited : List String) (n : Node) (remaining : List String)
  /-- A task failed, and some tasks after it were skipped. -/
  | failing (visited : List String) (n : Node) (skipped remaining : List String)
  /-- The run ended at a stage. -/
  | ended (last : Stage)

namespace Stage

/-- The tasks that had their turn. -/
def entered : Stage → List String
  | between visited _ => visited
  | working visited n _ => visited ++ [n.id]
  | failing visited n skipped _ => visited ++ n.id :: skipped
  | ended last => last.entered

/-- The tasks that did not have their turn. -/
def ahead : Stage → List String
  | between _ remaining => remaining
  | working _ _ remaining => remaining
  | failing _ _ _ remaining => remaining
  | ended last => last.ahead

/-- Whether a run heeds controls at a stage. -/
def isOpen : Stage → Bool
  | between .. | working .. => true
  | failing .. | ended _ => false

/-- Whether a task failed. -/
def hasFailed : Stage → Bool
  | between .. | working .. => false
  | failing .. => true
  | ended last => last.hasFailed

end Stage

/-- Whether an event is an obeyed control. -/
def EventKind.isControl : EventKind → Bool
  | runPaused | runResumed | runAborted => true
  | _ => false

/-- Whether an event is a line of output. -/
def EventKind.isOutput : EventKind → Bool
  | taskOutput _ => true
  | _ => false

/-- The run was aborted. -/
def Aborted (log : List Event) : Prop := ∃ e ∈ log, e.kind = .runAborted

@[simp]
theorem aborted_append {front back : List Event} :
    Aborted (front ++ back) ↔ Aborted front ∨ Aborted back := by
  simp [Aborted, or_and_right, exists_or]

@[simp]
theorem aborted_singleton {e : Event} : Aborted [e] ↔ e.kind = .runAborted := by
  simp [Aborted]

/-- A run may end at a stage, cancelled or not. -/
inductive Ends (log : List Event) : Stage → Bool → Prop
  | all {visited} : Ends log (.between visited []) false
  | failed {visited n skipped} : Ends log (.failing visited n skipped []) false
  | cancelled {visited id remaining} (habort : Aborted log) :
      Ends log (.between visited (id :: remaining)) true

/-- An event with which the log of a run may go on at a stage, and the stage after it. Once the run
was aborted no control is obeyed and no task has its turn. -/
inductive LogStep (r : Rules) (plan : RunPlan) (context : GuardContext) (log : List Event) :
    Stage → Event → Stage → Prop
  | control {stage e} (hopen : stage.isOpen = true) (habort : ¬ Aborted log)
      (hkind : e.kind.isControl = true) (hid : e.taskId = none) :
      LogStep r plan context log stage e stage
  | output {visited n remaining e} (hkind : e.kind.isOutput = true) (hid : e.taskId = some n.id) :
      LogStep r plan context log (.working visited n remaining) e (.working visited n remaining)
  /-- A line of work that the run does not wait for. -/
  | stray {stage e} (hr : r.strays = true) (hopen : stage.isOpen = true)
      (hkind : e.kind.isOutput = true) : LogStep r plan context log stage e stage
  /-- The guard of the next task keeps it from running. -/
  | passed {visited remaining n refusal e} (habort : ¬ Aborted log)
      (hnode : plan.graph.node? n.id = some n)
      (hguard : guardRefusal n.condition context = .ok (some refusal))
      (hkind : e.kind = .taskSkipped (some refusal.message)) (hid : e.taskId = some n.id) :
      LogStep r plan context log (.between visited (n.id :: remaining)) e
        (.between (visited ++ [n.id]) remaining)
  /-- The work on the next task begins. -/
  | began {visited remaining n e} (habort : ¬ Aborted log)
      (hpause : r.latePauses = true ∨ (replay log).isPaused = false)
      (hnode : plan.graph.node? n.id = some n)
      (hguard : guardRefusal n.condition context = .ok none)
      (hkind : e.kind = .taskStarted) (hid : e.taskId = some n.id) :
      LogStep r plan context log (.between visited (n.id :: remaining)) e
        (.working visited n remaining)
  | completed {visited n remaining outcome e} (hkind : e.kind = .taskCompleted outcome)
      (hid : e.taskId = some n.id) :
      LogStep r plan context log (.working visited n remaining) e
        (.between (visited ++ [n.id]) remaining)
  | failed {visited n remaining outcome e} (hkind : e.kind = .taskFailed outcome)
      (hid : e.taskId = some n.id) :
      LogStep r plan context log (.working visited n remaining) e (.failing visited n [] remaining)
  /-- The next task is skipped because another failed. -/
  | skipped {visited n skipped id remaining e}
      (hkind : e.kind = .taskSkipped (some (Orchestrator.skipWords n))) (hid : e.taskId = some id) :
      LogStep r plan context log (.failing visited n skipped (id :: remaining)) e
        (.failing visited n (skipped ++ [id]) remaining)
  | finished {stage cancelled e} (hends : Ends log stage cancelled)
      (hkind : e.kind = .runFinished (some cancelled)) (hid : e.taskId = none) :
      LogStep r plan context log stage e (.ended stage)

/-- The logs of the runs of a plan, and the stages to which they lead. -/
inductive RunLog (r : Rules) (plan : RunPlan) (context : GuardContext) : List Event → Stage → Prop
  | started {e names} (hkind : e.kind = .runStarted plan.order names) (hid : e.taskId = none) :
      RunLog r plan context [e] (.between [] plan.order)
  | step {log stage e next} (h : RunLog r plan context log stage)
      (hstep : LogStep r plan context log stage e next) : RunLog r plan context (log ++ [e]) next

variable {r : Rules} {plan : RunPlan} {context : GuardContext} {log : List Event} {e : Event}
  {stage next : Stage} {id : String}

section Order

/-- The order of a plan names no task twice. -/
theorem RunPlan.order_nodup (plan : RunPlan) : plan.order.Nodup :=
  Order.execution_order_nodup _ _ _

theorem Graph.id_of_node? {g : Graph} {n : Node} (h : g.node? id = some n) : n.id = id := by
  simpa using List.find?_some h

/-- The order of a plan names tasks of its graph. -/
theorem RunPlan.exists_node_of_mem_order (h : id ∈ plan.order) :
    ∃ n, plan.graph.node? n.id = some n ∧ n.id = id := by
  obtain ⟨m, hm, -, hid⟩ := Order.Covered.enabled (Order.mem_execution_order.1 h)
  cases hnode : plan.graph.node? id with
  | none =>
      have hnone := List.find?_eq_none.1 hnode m hm
      simp [hid] at hnone
  | some n =>
      have hn := Graph.id_of_node? hnode
      exact ⟨n, by rw [hn, hnode], hn⟩

end Order

section Steps

/-- No step begins a run. -/
theorem LogStep.not_opening (h : LogStep r plan context log stage e next) :
    e.kind.isOpening = false := by
  cases h with
  | control _ _ hkind => cases hk : e.kind <;> simp_all [EventKind.isControl, EventKind.isOpening]
  | output hkind | stray _ _ hkind =>
      cases hk : e.kind <;> simp_all [EventKind.isOutput, EventKind.isOpening]
  | passed _ _ _ hkind | began _ _ _ _ hkind | completed hkind | failed hkind | skipped hkind
  | finished _ hkind => simp [hkind, EventKind.isOpening]

/-- No step leads on from the end of a run. -/
theorem LogStep.not_ended {last : Stage} (h : LogStep r plan context log (.ended last) e next) :
    False := by
  cases h with
  | control hopen => cases hopen
  | stray _ hopen => cases hopen
  | finished hends => cases hends

/-- A step gives tasks their turn and forgets none. -/
theorem LogStep.ids_eq (h : LogStep r plan context log stage e next) :
    next.entered ++ next.ahead = stage.entered ++ stage.ahead := by
  cases h <;> simp [Stage.entered, Stage.ahead]

/-- A task is begun when its turn has come, and during a pause only if rules let it. -/
theorem LogStep.of_started (h : LogStep r plan context log stage e next)
    (hkind : e.kind = .taskStarted) :
    ∃ visited id remaining, stage = .between visited (id :: remaining) ∧ e.taskId = some id ∧
      ¬ Aborted log ∧ (r.latePauses = true ∨ (replay log).isPaused = false) := by
  cases h with
  | began habort hpause _ _ _ hid => exact ⟨_, _, _, rfl, hid, habort, hpause⟩
  | control _ _ hcontrol => simp [hkind, EventKind.isControl] at hcontrol
  | output houtput | stray _ _ houtput => simp [hkind, EventKind.isOutput] at houtput
  | passed _ _ _ hother | completed hother | failed hother | skipped hother
  | finished _ hother => simp [hkind] at hother

/-- Outputs and controls leave no mark. -/
theorem EventKind.mark?_of_is_control {kind : EventKind} (h : kind.isControl = true) :
    kind.mark? = none := by
  cases kind <;> simp_all [isControl, mark?]

theorem EventKind.mark?_of_is_output {kind : EventKind} (h : kind.isOutput = true) :
    kind.mark? = none := by
  cases kind <;> simp_all [isOutput, mark?]

end Steps

section Logs

/-- A log begins with the start of its run, which no other event repeats. -/
theorem RunLog.head (h : RunLog r plan context log stage) :
    ∃ first names rest, log = first :: rest ∧ first.kind = .runStarted plan.order names ∧
      first.taskId = none ∧ ∀ e ∈ rest, e.kind.isOpening = false := by
  induction h with
  | @started e names hkind hid => exact ⟨e, names, [], rfl, hkind, hid, by simp⟩
  | @step log stage e next _ hstep ih =>
      obtain ⟨first, names, rest, rfl, hkind, hid, hrest⟩ := ih
      refine ⟨first, names, rest ++ [e], rfl, hkind, hid, fun x hx => ?_⟩
      rcases List.mem_append.1 hx with hx | hx
      · exact hrest x hx
      · exact List.mem_singleton.1 hx ▸ hstep.not_opening

/-- Every other event of a log was a step at its time. -/
theorem RunLog.at_event (h : RunLog r plan context log stage) {front back : List Event}
    (hlog : log = front ++ e :: back) (hkind : e.kind.isOpening = false) :
    ∃ before after, RunLog r plan context front before ∧
      LogStep r plan context front before e after := by
  induction h generalizing back with
  | started hfirst _ =>
      obtain ⟨rfl, rfl, rfl⟩ : front = [] ∧ e = _ ∧ back = [] := by
        simpa [List.append_eq_cons_iff, eq_comm] using hlog
      simp [hfirst, EventKind.isOpening] at hkind
  | @step log stage x next h hstep ih =>
      rcases List.eq_nil_or_concat back with rfl | ⟨back, last, rfl⟩
      · obtain ⟨rfl, rfl⟩ : log = front ∧ x = e := by simpa using hlog
        exact ⟨stage, next, h, hstep⟩
      · rw [List.concat_eq_append, ← List.cons_append, ← List.append_assoc] at hlog
        exact ih (List.append_inj_left' hlog rfl)

/-- Nothing behind the first event of a log begins a run. -/
theorem RunLog.not_opening_of_mem_tail (h : RunLog r plan context log stage)
    {front back : List Event} {x : Event} (hlog : log = front ++ e :: back) (hx : x ∈ back) :
    x.kind.isOpening = false := by
  obtain ⟨first, names, rest, rfl, -, -, hrest⟩ := h.head
  refine hrest x ?_
  cases front with
  | nil =>
      obtain ⟨rfl, rfl⟩ := List.cons_eq_cons.1 hlog
      exact hx
  | cons y front =>
      obtain ⟨rfl, rfl⟩ := List.cons_eq_cons.1 hlog
      simp [hx]

/-- The start of a run is about no task. -/
theorem RunLog.not_opening_of_task (h : RunLog r plan context log stage) (he : e ∈ log)
    (hid : e.taskId = some id) : e.kind.isOpening = false := by
  obtain ⟨first, names, rest, rfl, -, hnone, hrest⟩ := h.head
  rcases List.mem_cons.1 he with rfl | he
  · simp [hid] at hnone
  · exact hrest e he

/-- Every event about a task was a step at its time. -/
theorem RunLog.at_task_event (h : RunLog r plan context log stage) {front back : List Event}
    (hlog : log = front ++ e :: back) (hid : e.taskId = some id) :
    ∃ before after, RunLog r plan context front before ∧
      LogStep r plan context front before e after :=
  h.at_event hlog (h.not_opening_of_task (by simp [hlog]) hid)

/-- The order of a plan is what had its turn and what is ahead. -/
theorem RunLog.order_eq (h : RunLog r plan context log stage) :
    stage.entered ++ stage.ahead = plan.order := by
  induction h with
  | started => rfl
  | step _ hstep ih => rw [hstep.ids_eq, ih]

theorem RunLog.nodup (h : RunLog r plan context log stage) :
    (stage.entered ++ stage.ahead).Nodup :=
  h.order_eq ▸ plan.order_nodup

/-- How a log of a run that returned ends. -/
theorem RunLog.ended {last : Stage} (h : RunLog r plan context log (.ended last)) :
    ∃ front e cancelled, log = front ++ [e] ∧ RunLog r plan context front last ∧
      Ends front last cancelled ∧ e.kind = .runFinished (some cancelled) := by
  cases h with
  | step h hstep =>
      cases hstep with
      | finished hends hkind _ => exact ⟨_, _, _, rfl, h, hends, hkind⟩
      | control hopen | stray _ hopen => cases hopen

/-- Only the last event of a run that returned says that the run is over. -/
theorem RunLog.not_finished (h : RunLog r plan context log stage)
    (hopen : ∀ last, stage ≠ .ended last) {e : Event} (he : e ∈ log) (cancelled : Option Bool) :
    e.kind ≠ .runFinished cancelled := by
  induction h with
  | started hkind _ =>
      obtain rfl := List.mem_singleton.1 he
      simp [hkind]
  | @step log stage last next h hstep ih =>
      rcases List.mem_append.1 he with he | he
      · refine ih ?_ he
        rintro ended rfl
        exact hstep.not_ended
      · obtain rfl := List.mem_singleton.1 he
        intro hkind
        cases hstep with
        | control _ _ hcontrol => simp [hkind, EventKind.isControl] at hcontrol
        | output houtput | stray _ _ houtput => simp [hkind, EventKind.isOutput] at houtput
        | finished => exact hopen _ rfl
        | passed _ _ _ hother | began _ _ _ _ hother | completed hother | failed hother
        | skipped hother => simp [hkind] at hother

/-- The state that a log comes to says of a task what its last mark says. -/
theorem RunLog.status_of (h : RunLog r plan context log stage) (hid : id ∈ plan.order) :
    (replay log).statusOf id = ((marks id log).getLast?.map Mark.status).getD .pending := by
  obtain ⟨first, names, rest, rfl, hfirst, -, hrest⟩ := h.head
  exact (result_of_marks hfirst hrest hid).1

theorem RunLog.skip_reason_of (h : RunLog r plan context log stage) (hid : id ∈ plan.order)
    {reason : Option String} (hlast : (marks id log).getLast? = some (.skipped reason)) :
    ((replay log).resultOf (some id)).skipReason = reason := by
  obtain ⟨first, names, rest, rfl, hfirst, -, hrest⟩ := h.head
  exact (result_of_marks hfirst hrest hid).2 reason hlast

end Logs

section Marked

/-- The marks of a task that was passed: the work on it was completed, or its guard kept it from
running. -/
def PassMarks (plan : RunPlan) (context : GuardContext) (log : List Event) (id : String) : Prop :=
  marks id log = [.started, .completed] ∨
    ∃ n refusal, plan.graph.node? id = some n ∧
      guardRefusal n.condition context = .ok (some refusal) ∧
      marks id log = [.skipped (some refusal.message)]

theorem PassMarks.congr {log' : List Event} (h : PassMarks plan context log id)
    (hsame : marks id log' = marks id log) : PassMarks plan context log' id := by
  rwa [PassMarks, hsame]

/-- What a log says of the tasks at a stage. -/
def Stage.Marked (plan : RunPlan) (context : GuardContext) (log : List Event) : Stage → Prop
  | between visited remaining =>
      (∀ id ∈ visited, PassMarks plan context log id) ∧ ∀ id ∈ remaining, marks id log = []
  | working visited n remaining =>
      (∀ id ∈ visited, PassMarks plan context log id) ∧ plan.graph.node? n.id = some n ∧
        marks n.id log = [.started] ∧ ∀ id ∈ remaining, marks id log = []
  | failing visited n skipped remaining =>
      (∀ id ∈ visited, PassMarks plan context log id) ∧ plan.graph.node? n.id = some n ∧
        marks n.id log = [.started, .failed] ∧
        (∀ id ∈ skipped, marks id log = [.skipped (some (Orchestrator.skipWords n))]) ∧
        ∀ id ∈ remaining, marks id log = []
  | ended last => last.Marked plan context log

theorem all_passed_congr {log' : List Event} {ids : List String}
    (h : ∀ id ∈ ids, PassMarks plan context log id)
    (hsame : ∀ id ∈ ids, marks id log' = marks id log) :
    ∀ id ∈ ids, PassMarks plan context log' id :=
  fun id hid => (h id hid).congr (hsame id hid)

theorem all_marked_congr {log' : List Event} {ids : List String} {found : List Mark}
    (h : ∀ id ∈ ids, marks id log = found) (hsame : ∀ id ∈ ids, marks id log' = marks id log) :
    ∀ id ∈ ids, marks id log' = found :=
  fun id hid => (hsame id hid).trans (h id hid)

/-- What a log says of the tasks is decided by their marks. -/
theorem Stage.Marked.congr {log' : List Event} (h : stage.Marked plan context log)
    (hsame : ∀ id ∈ stage.entered ++ stage.ahead, marks id log' = marks id log) :
    stage.Marked plan context log' := by
  induction stage with
  | between visited remaining =>
      obtain ⟨hentered, hahead⟩ := List.forall_mem_append.1 hsame
      exact ⟨all_passed_congr h.1 hentered, all_marked_congr h.2 hahead⟩
  | working visited n remaining =>
      obtain ⟨hvisited, hnode, hn, hremaining⟩ := h
      obtain ⟨hentered, hahead⟩ := List.forall_mem_append.1 hsame
      obtain ⟨hbefore, hself⟩ := List.forall_mem_append.1 hentered
      exact ⟨all_passed_congr hvisited hbefore, hnode,
        (hself n.id (List.mem_singleton_self _)).trans hn, all_marked_congr hremaining hahead⟩
  | failing visited n skipped remaining =>
      obtain ⟨hvisited, hnode, hn, hskipped, hremaining⟩ := h
      obtain ⟨hentered, hahead⟩ := List.forall_mem_append.1 hsame
      obtain ⟨hbefore, hbehind⟩ := List.forall_mem_append.1 hentered
      obtain ⟨hself, hbehind⟩ := List.forall_mem_cons.1 hbehind
      exact ⟨all_passed_congr hvisited hbefore, hnode, hself.trans hn,
        all_marked_congr hskipped hbehind, all_marked_congr hremaining hahead⟩
  | ended last ih => exact ih h hsame

/-- An event leaves no mark on the tasks before and behind its own. -/
theorem marks_concat_of_others (log : List Event) {front back : List String}
    (hnodup : (front ++ id :: back).Nodup) (hid : e.taskId = some id) :
    (∀ other ∈ front, marks other (log ++ [e]) = marks other log) ∧
      ∀ other ∈ back, marks other (log ++ [e]) = marks other log := by
  have hnot := (List.nodup_cons.1 (List.nodup_middle.1 hnodup)).1
  exact List.forall_mem_append.1 fun _ hother => marks_concat_of_ne fun heq =>
    hnot (Option.some.inj (hid.symm.trans heq) ▸ hother)

/-- A step marks the task that it is about and no other. -/
theorem LogStep.marked (h : LogStep r plan context log stage e next)
    (hnodup : (stage.entered ++ stage.ahead).Nodup) (hm : stage.Marked plan context log) :
    next.Marked plan context (log ++ [e]) := by
  cases h with
  | control _ _ hkind _ =>
      exact hm.congr fun _ _ => marks_concat_of_unmarked (EventKind.mark?_of_is_control hkind)
  | output hkind _ | stray _ _ hkind =>
      exact hm.congr fun _ _ => marks_concat_of_unmarked (EventKind.mark?_of_is_output hkind)
  | finished _ hkind _ =>
      show stage.Marked plan context (log ++ [e])
      exact hm.congr fun _ _ => marks_concat_of_unmarked (by simp [hkind, EventKind.mark?])
  | @passed visited remaining n refusal _ _ hnode hguard hkind hid =>
      obtain ⟨hvisited, hremaining⟩ := hm
      obtain ⟨hn, hremaining⟩ := List.forall_mem_cons.1 hremaining
      obtain ⟨hbefore, hbehind⟩ := marks_concat_of_others log hnodup hid
      have hmark : e.kind.mark? = some (.skipped (some refusal.message)) := by
        rw [hkind, EventKind.mark?]
      have hself : PassMarks plan context (log ++ [e]) n.id :=
        .inr ⟨n, refusal, hnode, hguard, by rw [marks_concat_self hid hmark, hn, List.nil_append]⟩
      exact ⟨List.forall_mem_append.2 ⟨all_passed_congr hvisited hbefore,
        List.forall_mem_singleton.2 hself⟩, all_marked_congr hremaining hbehind⟩
  | @began visited remaining n _ _ _ hnode _ hkind hid =>
      obtain ⟨hvisited, hremaining⟩ := hm
      obtain ⟨hn, hremaining⟩ := List.forall_mem_cons.1 hremaining
      obtain ⟨hbefore, hbehind⟩ := marks_concat_of_others log hnodup hid
      have hmark : e.kind.mark? = some .started := by rw [hkind, EventKind.mark?]
      exact ⟨all_passed_congr hvisited hbefore, hnode,
        by rw [marks_concat_self hid hmark, hn, List.nil_append],
        all_marked_congr hremaining hbehind⟩
  | @completed visited n remaining outcome _ hkind hid =>
      obtain ⟨hvisited, hnode, hn, hremaining⟩ := hm
      rw [Stage.entered, Stage.ahead, List.append_assoc] at hnodup
      obtain ⟨hbefore, hbehind⟩ := marks_concat_of_others log hnodup hid
      have hmark : e.kind.mark? = some .completed := by rw [hkind, EventKind.mark?]
      have hself : PassMarks plan context (log ++ [e]) n.id :=
        .inl (by rw [marks_concat_self hid hmark, hn]; rfl)
      exact ⟨List.forall_mem_append.2 ⟨all_passed_congr hvisited hbefore,
        List.forall_mem_singleton.2 hself⟩, all_marked_congr hremaining hbehind⟩
  | @failed visited n remaining outcome _ hkind hid =>
      obtain ⟨hvisited, hnode, hn, hremaining⟩ := hm
      rw [Stage.entered, Stage.ahead, List.append_assoc] at hnodup
      obtain ⟨hbefore, hbehind⟩ := marks_concat_of_others log hnodup hid
      have hmark : e.kind.mark? = some .failed := by rw [hkind, EventKind.mark?]
      exact ⟨all_passed_congr hvisited hbefore, hnode, by rw [marks_concat_self hid hmark, hn]; rfl,
        by simp, all_marked_congr hremaining hbehind⟩
  | @skipped visited n skipped id remaining _ hkind hid =>
      obtain ⟨hvisited, hnode, hn, hskipped, hremaining⟩ := hm
      obtain ⟨hahead, hremaining⟩ := List.forall_mem_cons.1 hremaining
      -- the failed task and those skipped before were all entered, so they stand before this one
      obtain ⟨hentered, hbehind⟩ := marks_concat_of_others log hnodup hid
      obtain ⟨hbefore, hfailed⟩ := List.forall_mem_append.1 hentered
      obtain ⟨hself, hfailed⟩ := List.forall_mem_cons.1 hfailed
      have hmark : e.kind.mark? = some (.skipped (some (Orchestrator.skipWords n))) := by
        rw [hkind, EventKind.mark?]
      have hlast : marks id (log ++ [e]) = [.skipped (some (Orchestrator.skipWords n))] := by
        rw [marks_concat_self hid hmark, hahead, List.nil_append]
      exact ⟨all_passed_congr hvisited hbefore, hnode, hself.trans hn,
        List.forall_mem_append.2 ⟨all_marked_congr hskipped hfailed,
          List.forall_mem_singleton.2 hlast⟩, all_marked_congr hremaining hbehind⟩

/-- What a log says of the tasks. -/
theorem RunLog.marked (h : RunLog r plan context log stage) : stage.Marked plan context log := by
  induction h with
  | started hkind hid =>
      exact ⟨by simp, fun id _ => by simp [Event.mark?, hid]⟩
  | step h hstep ih => exact hstep.marked h.nodup ih

/-- Tasks ahead have no mark. -/
theorem Stage.Marked.ahead (h : stage.Marked plan context log) :
    ∀ id ∈ stage.ahead, marks id log = [] := by
  induction stage with
  | between => exact h.2
  | working => exact h.2.2.2
  | failing => exact h.2.2.2.2
  | ended last ih => exact ih h

/-- A task that had its turn is marked. -/
theorem Stage.Marked.entered (h : stage.Marked plan context log) :
    ∀ id ∈ stage.entered, .started ∈ marks id log ∨ ∃ reason, .skipped reason ∈ marks id log := by
  have hpassed : ∀ id, PassMarks plan context log id →
      .started ∈ marks id log ∨ ∃ reason, .skipped reason ∈ marks id log := by
    rintro id (hm | ⟨n, refusal, -, -, hm⟩)
    · simp [hm]
    · exact .inr ⟨_, by rw [hm, List.mem_singleton]⟩
  induction stage with
  | between visited remaining => exact fun id hid => hpassed id (h.1 id hid)
  | working visited n remaining =>
      intro id hid
      rcases List.mem_append.1 hid with hid | hid
      · exact hpassed id (h.1 id hid)
      · obtain rfl := List.mem_singleton.1 hid
        simp [h.2.2.1]
  | failing visited n skipped remaining =>
      intro id hid
      rcases List.mem_append.1 hid with hid | hid
      · exact hpassed id (h.1 id hid)
      · rcases List.mem_cons.1 hid with rfl | hid
        · simp [h.2.2.1]
        · exact .inr ⟨_, by rw [h.2.2.2.1 id hid, List.mem_singleton]⟩
  | ended last ih => exact ih h

end Marked

section Statuses

/-- A task was passed: the work on it succeeded, or its own guard kept it from running. -/
def Passed (plan : RunPlan) (context : GuardContext) (s : RunState) (id : String) : Prop :=
  s.statusOf id = .success ∨
    ∃ n refusal, plan.graph.node? id = some n ∧
      guardRefusal n.condition context = .ok (some refusal) ∧
      s.statusOf id = .skipped ∧ (s.resultOf (some id)).skipReason = some refusal.message

theorem RunLog.passed (h : RunLog r plan context log stage) (hid : id ∈ plan.order)
    (hmarks : PassMarks plan context log id) : Passed plan context (replay log) id := by
  rcases hmarks with hmarks | ⟨n, refusal, hnode, hguard, hmarks⟩
  · left
    rw [h.status_of hid, hmarks]
    rfl
  · refine .inr ⟨n, refusal, hnode, hguard, ?_, h.skip_reason_of hid (by rw [hmarks]; rfl)⟩
    rw [h.status_of hid, hmarks]
    rfl

end Statuses

section Begun

/-- The tasks that a log says were begun, in order. -/
def startedIds (log : List Event) : List String :=
  log.filterMap fun e => if e.kind = .taskStarted then e.taskId else none

theorem started_ids_concat_of_ne (h : e.kind ≠ .taskStarted) :
    startedIds (log ++ [e]) = startedIds log := by
  simp [startedIds, h]

theorem started_ids_concat_self (h : e.kind = .taskStarted) (hid : e.taskId = some id) :
    startedIds (log ++ [e]) = startedIds log ++ [id] := by
  simp [startedIds, h, hid]

/-- Only the step that begins a task puts its mark on one. -/
theorem marked_started_concat_of_ne (log : List Event) (h : e.kind ≠ .taskStarted) (id : String) :
    .started ∈ marks id (log ++ [e]) ↔ .started ∈ marks id log := by
  have hmark : e.mark? id ≠ some .started := fun hmark =>
    h (EventKind.mark?_eq_started.1 (Event.mark?_eq_some.1 hmark).2)
  simp [hmark]

/-- The first of the tasks ahead is the last of the plan that was begun. -/
theorem filter_started_concat {front back : List String} (hkind : e.kind = .taskStarted)
    (hid : e.taskId = some id) (hnodup : (front ++ id :: back).Nodup)
    (hahead : ∀ other ∈ id :: back, marks other log = []) :
    (front ++ id :: back).filter (fun other => decide (.started ∈ marks other (log ++ [e]))) =
      (front ++ id :: back).filter (fun other => decide (.started ∈ marks other log)) ++ [id] := by
  obtain ⟨hbefore, hbehind⟩ := marks_concat_of_others log hnodup hid
  obtain ⟨hself, hback⟩ := List.forall_mem_cons.1 hahead
  -- in front nothing changes, and behind the task nothing was begun or is begun now
  have hfront : front.filter (fun other => decide (.started ∈ marks other (log ++ [e]))) =
      front.filter fun other => decide (.started ∈ marks other log) :=
    List.filter_congr fun other hother => by rw [hbefore other hother]
  have hlater : back.filter (fun other => decide (.started ∈ marks other (log ++ [e]))) = [] :=
    List.filter_eq_nil_iff.2 fun other hother => by
      simp [hbehind other hother, hback other hother]
  have hnone : (id :: back).filter (fun other => decide (.started ∈ marks other log)) = [] :=
    List.filter_eq_nil_iff.2 fun other hother => by simp [hahead other hother]
  have hmark : .started ∈ marks id (log ++ [e]) := by
    rw [marks_concat_self hid (by rw [hkind, EventKind.mark?])]
    simp
  rw [List.filter_append, List.filter_append, hnone, List.append_nil, hfront,
    List.filter_cons_of_pos (by simpa using hmark), hlater]

/-- Tasks are begun in the order of the plan. -/
theorem RunLog.started_ids (h : RunLog r plan context log stage) :
    startedIds log = plan.order.filter fun id => decide (.started ∈ marks id log) := by
  induction h with
  | started hkind hid => simp [startedIds, hkind, Event.mark?, EventKind.mark?]
  | @step log stage e next h hstep ih =>
      by_cases hkind : e.kind = .taskStarted
      · obtain ⟨visited, id, remaining, rfl, hid, -⟩ := hstep.of_started hkind
        have hnodup : (visited ++ id :: remaining).Nodup := h.nodup
        rw [started_ids_concat_self hkind hid, ih, ← h.order_eq, Stage.entered, Stage.ahead,
          filter_started_concat hkind hid hnodup h.marked.ahead]
      · rw [started_ids_concat_of_ne hkind, ih]
        simp only [marked_started_concat_of_ne log hkind]

/-- A log has a failure when a task failed by its stage. -/
theorem RunLog.has_failed_iff (h : RunLog r plan context log stage) :
    (∃ e ∈ log, e.kind.mark? = some .failed) ↔ stage.hasFailed = true := by
  induction h with
  | started hkind _ => simp [hkind, EventKind.mark?, Stage.hasFailed]
  | @step log stage e next h hstep ih =>
      simp only [List.mem_append, or_and_right, exists_or, ih, List.mem_singleton, exists_eq_left]
      cases hstep with
      | control _ _ hkind => simp [EventKind.mark?_of_is_control hkind]
      | output hkind | stray _ _ hkind => simp [EventKind.mark?_of_is_output hkind]
      | passed _ _ _ hkind | began _ _ _ _ hkind | completed hkind | failed hkind | skipped hkind
      | finished _ hkind => simp [hkind, EventKind.mark?, Stage.hasFailed]

end Begun

section Underway

/-- Whether an event is a line of the work on a task, or an obeyed control. -/
def IsDuring (id : String) (e : Event) : Prop :=
  (e.kind.isOutput = true ∧ e.taskId = some id) ∨ e.kind.isControl = true

/-- The work on a task is the last that was begun, and nothing but its lines and controls came
since. -/
def Underway (log : List Event) (id : String) : Prop :=
  ∃ front begun lines, log = front ++ begun :: lines ∧ begun.kind = .taskStarted ∧
    begun.taskId = some id ∧ ∀ e ∈ lines, IsDuring id e

/-- Without stray lines, only lines of the work under way and controls come while a run waits for
it. -/
theorem RunLog.underway (hr : r.strays = false) {visited remaining : List String} {n : Node}
    (h : RunLog r plan context log (.working visited n remaining)) : Underway log n.id := by
  generalize hstage : Stage.working visited n remaining = stage at h
  induction h with
  | started => cases hstage
  | @step log stage e next h hstep ih =>
      -- what was under way stays so with one more line or control
      have hgoesOn : Underway log n.id → IsDuring n.id e → Underway (log ++ [e]) n.id := by
        rintro ⟨front, begun, lines, rfl, hkind, hid, hlines⟩ he
        refine ⟨front, begun, lines ++ [e], by simp, hkind, hid, fun x hx => ?_⟩
        rcases List.mem_append.1 hx with hx | hx
        · exact hlines x hx
        · exact List.mem_singleton.1 hx ▸ he
      cases hstep with
      | control _ _ hkind _ => exact hgoesOn (ih hstage) (.inr hkind)
      | output hkind hid =>
          cases hstage
          exact hgoesOn (ih rfl) (.inl ⟨hkind, hid⟩)
      | stray hstray => simp [hr] at hstray
      | began _ _ _ _ hkind hid =>
          cases hstage
          exact ⟨log, e, [], rfl, hkind, hid, by simp⟩
      | passed | completed | failed | skipped | finished => cases hstage

end Underway

end BuildGraph
