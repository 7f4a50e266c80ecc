import BuildGraph.Proofs.Table
import BuildGraph.Run.Event

/-!
# What a log says about a task

The events that begin, end or skip the work on a task leave marks on it; lines of output and the
events of the run itself leave none. The state that a log comes to says of each task what its last
mark says: `status_of_marks` and `skip_reason_of_marks`.

The module also says what an event makes of a pause, and what it makes of all that is known about
its task (`TaskResult.enter`).
-/

namespace BuildGraph

/-- What an event says about the course of a task. -/
inductive Mark where
  | started
  | completed
  | failed
  | skipped (reason : Option String)
  deriving DecidableEq, Repr

/-- The status of a task with the mark. -/
def Mark.status : Mark → TaskStatus
  | started => .running
  | completed => .success
  | failed => .failed
  | skipped _ => .skipped

namespace EventKind

/-- The mark that an event leaves on its task. -/
def mark? : EventKind → Option Mark
  | taskStarted => some .started
  | taskCompleted _ => some .completed
  | taskFailed _ => some .failed
  | taskSkipped reason => some (.skipped reason)
  | _ => none

/-- How the work on a task came to its end, by an event that says so. -/
def closing? : EventKind → Option (TaskStatus × TaskOutcome)
  | taskCompleted outcome => some (.success, outcome)
  | taskFailed outcome => some (.failed, outcome)
  | _ => none

/-- Whether an event makes a new state. -/
def isOpening : EventKind → Bool
  | runStarted .. | reset => true
  | _ => false

/-- What an event makes of a pause. -/
def pausing? : EventKind → Option Bool
  | runPaused => some true
  | runResumed | runAborted | runFinished _ | runStarted .. | reset => some false
  | _ => none

end EventKind

/-- The mark that an event leaves on a task. -/
def Event.mark? (e : Event) (id : String) : Option Mark :=
  if e.taskId = some id then e.kind.mark? else none

/-- The marks that a log leaves on a task. -/
def marks (id : String) (log : List Event) : List Mark := log.filterMap fun e => e.mark? id

/-- What is known about a task when the work on it has come to an end. -/
def TaskResult.close (r : TaskResult) (e : Event) (status : TaskStatus) (outcome : TaskOutcome) :
    TaskResult :=
  { r with
    status, endTime := some e.timestamp
    durationMs := outcome.durationMs, output := outcome.output, error := outcome.error }

/-- What is known about a task after an event about it. -/
def TaskResult.enter (r : TaskResult) (e : Event) : TaskResult :=
  match e.kind with
  | .taskStarted => { r with status := .running, startTime := some e.timestamp }
  | .taskOutput line => { r with output := some (RunState.joinOutput r.output line) }
  | .taskCompleted outcome => r.close e .success outcome
  | .taskFailed outcome => r.close e .failed outcome
  | .taskSkipped reason =>
    { r with status := .skipped, endTime := some e.timestamp, skipReason := reason }
  | _ => r

variable {id : String} {log : List Event} {e : Event}

@[simp]
theorem marks_append (id : String) (front back : List Event) :
    marks id (front ++ back) = marks id front ++ marks id back := by
  simp [marks]

theorem marks_cons (id : String) (e : Event) (log : List Event) :
    marks id (e :: log) = (e.mark? id).toList ++ marks id log := by
  cases h : e.mark? id <;> simp [marks, h]

@[simp]
theorem marks_singleton (id : String) (e : Event) : marks id [e] = (e.mark? id).toList := by
  cases h : e.mark? id <;> simp [marks, h]

/-- An event about another task leaves no mark. -/
theorem marks_concat_of_ne (h : e.taskId ≠ some id) : marks id (log ++ [e]) = marks id log := by
  simp [Event.mark?, h]

/-- Some events leave no mark on any task. -/
theorem marks_concat_of_unmarked (h : e.kind.mark? = none) :
    marks id (log ++ [e]) = marks id log := by
  simp [Event.mark?, h]

/-- An event leaves its mark on its own task. -/
theorem marks_concat_self {m : Mark} (hid : e.taskId = some id) (h : e.kind.mark? = some m) :
    marks id (log ++ [e]) = marks id log ++ [m] := by
  simp [Event.mark?, hid, h]

theorem Event.mark?_eq_some {m : Mark} :
    e.mark? id = some m ↔ e.taskId = some id ∧ e.kind.mark? = some m := by
  rw [Event.mark?]
  split <;> simp [*]

theorem EventKind.mark?_eq_started {kind : EventKind} :
    kind.mark? = some .started ↔ kind = .taskStarted := by
  cases kind <;> simp [mark?]

theorem EventKind.mark?_eq_skipped {kind : EventKind} {reason : Option String} :
    kind.mark? = some (.skipped reason) ↔ kind = .taskSkipped reason := by
  cases kind <;> simp [mark?]

theorem EventKind.closing?_eq_some {kind : EventKind} {status : TaskStatus}
    {outcome : TaskOutcome} :
    kind.closing? = some (status, outcome) ↔
      (kind = .taskCompleted outcome ∧ status = .success) ∨
        (kind = .taskFailed outcome ∧ status = .failed) := by
  cases kind <;> simp [closing?, and_comm, eq_comm]

/-- A mark on a task was left by an event about it. -/
theorem mem_marks {m : Mark} :
    m ∈ marks id log ↔ ∃ e ∈ log, e.taskId = some id ∧ e.kind.mark? = some m := by
  simp [marks, Event.mark?_eq_some]

theorem replay_concat (log : List Event) (e : Event) :
    replay (log ++ [e]) = (replay log).apply e := by
  simp [replay]

namespace RunState

variable {s : RunState}

theorem results_apply (s : RunState) (e : Event) :
    (s.apply e).results = (s.applyKind e).results := by
  rw [apply]
  split <;> rfl

theorem is_paused_apply (s : RunState) (e : Event) :
    (s.apply e).isPaused = e.kind.pausing?.getD s.isPaused := by
  have h : (s.apply e).isPaused = (s.applyKind e).isPaused := by
    rw [apply]
    split <;> rfl
  rw [h, applyKind]
  cases e.kind <;> rfl

theorem cancelled_apply_finished {cancelled : Bool}
    (h : e.kind = .runFinished (some cancelled)) : (s.apply e).cancelled = cancelled := by
  simp [apply, applyKind, h]

/-- The status of a task is that of what is known about it. -/
theorem status_of_eq (s : RunState) (id : String) :
    s.statusOf id = (s.resultOf (some id)).status := by
  rw [statusOf, resultOf]
  cases s.results.get? (some id) <;> rfl

/-- A change of what is known about one task leaves the others alone. -/
theorem result_of_update (s : RunState) (taskId other : Option String)
    (change : TaskResult → TaskResult) :
    (s.update taskId change).resultOf other =
      if taskId = other then change (s.resultOf taskId) else s.resultOf other := by
  rw [resultOf, update, Table.get?_set]
  split <;> rfl

/-- What is known about a task after an event: an event about another one tells nothing. -/
theorem result_of_apply_eq (s : RunState) (h : e.kind.isOpening = false) (id : String) :
    (s.apply e).resultOf (some id) =
      if e.taskId = some id then (s.resultOf (some id)).enter e else s.resultOf (some id) := by
  have hresult : (s.apply e).resultOf (some id) = (s.applyKind e).resultOf (some id) := by
    rw [resultOf, results_apply, resultOf]
  rw [hresult, applyKind, TaskResult.enter]
  by_cases hid : e.taskId = some id <;> cases hkind : e.kind <;>
    simp_all [EventKind.isOpening, close, TaskResult.close, result_of_update] <;> rfl

/-- What is known about a task after events, of which none makes a new state: those about it are
entered one after another. -/
theorem result_of_foldl_enter (hlog : ∀ e ∈ log, e.kind.isOpening = false) (s : RunState)
    (id : String) :
    (log.foldl apply s).resultOf (some id) =
      (log.filter fun e => decide (e.taskId = some id)).foldl TaskResult.enter
        (s.resultOf (some id)) := by
  induction log generalizing s with
  | nil => rfl
  | cons e log ih =>
      obtain ⟨he, hlog⟩ := List.forall_mem_cons.1 hlog
      rw [List.foldl_cons, ih hlog, result_of_apply_eq s he]
      split
      · next hid => rw [List.filter_cons_of_pos (by simpa using hid), List.foldl_cons]
      · next hid => rw [List.filter_cons_of_neg (by simpa using hid)]

/-- What is known about the course of a task after an event. -/
theorem result_of_apply (s : RunState) (h : e.kind.isOpening = false) (id : String) :
    ((s.apply e).resultOf (some id)).status =
        ((e.mark? id).map Mark.status).getD (s.resultOf (some id)).status ∧
      ((s.apply e).resultOf (some id)).skipReason =
        match e.mark? id with
        | some (.skipped reason) => reason
        | _ => (s.resultOf (some id)).skipReason := by
  rw [result_of_apply_eq s h, Event.mark?]
  split
  · rw [TaskResult.enter]
    cases e.kind <;> simp [EventKind.mark?, TaskResult.close, Mark.status]
  · simp

/-- What is known about a task after events, of which none makes a new state. -/
theorem result_of_foldl (hlog : ∀ e ∈ log, e.kind.isOpening = false) (s : RunState) (id : String) :
    ((log.foldl apply s).resultOf (some id)).status =
        ((marks id log).getLast?.map Mark.status).getD (s.resultOf (some id)).status ∧
      ∀ reason, (marks id log).getLast? = some (.skipped reason) →
        ((log.foldl apply s).resultOf (some id)).skipReason = reason := by
  induction log using List.reverseRecOn with
  | nil => simp [marks]
  | append_singleton log e ih =>
      obtain ⟨hstatus, hreason⟩ := ih fun e he => hlog e (List.mem_append_left _ he)
      obtain ⟨hstatus', hreason'⟩ :=
        result_of_apply (log.foldl apply s) (hlog e (by simp)) id
      rw [List.foldl_append, List.foldl_cons, List.foldl_nil, marks_append, marks_singleton,
        hstatus', hreason']
      cases hmark : e.mark? id with
      | none => simpa [hstatus] using hreason
      | some m => cases m <;> simp

/-- Nothing but its name is known about a task of a run at its start, and that it is pending. -/
theorem result_of_started {order : List String} {names : Table String String}
    (hkind : e.kind = .runStarted order names) (hid : id ∈ order) (s : RunState) :
    (s.apply e).resultOf (some id) = {
      taskId := some id, taskName := some ((names.get? id).getD id), status := .pending } := by
  have hget : (pendingResults order names).get? (some id) = some {
      taskId := some id, taskName := some ((names.get? id).getD id), status := .pending } := by
    refine Table.get?_ofList ⟨_, List.mem_map.2 ⟨id, hid, rfl⟩, rfl⟩ ?_
    simp only [List.mem_map]
    rintro _ ⟨other, -, rfl⟩ hkey
    obtain rfl := Option.some.inj hkey
    rfl
  rw [resultOf, results_apply, applyKind, hkind]
  simp [hget]

/-- Every task of a run is pending at its start. -/
theorem status_of_started {order : List String} {names : Table String String}
    (hkind : e.kind = .runStarted order names) (hid : id ∈ order) (s : RunState) :
    ((s.apply e).resultOf (some id)).status = .pending := by
  rw [result_of_started hkind hid]

end RunState

/-- The state that a run comes to says of a task what its last mark says, and knows why it was
skipped. -/
theorem result_of_marks {first : Event} {order : List String} {names : Table String String}
    (hfirst : first.kind = .runStarted order names) (hlog : ∀ e ∈ log, e.kind.isOpening = false)
    (hid : id ∈ order) :
    (replay (first :: log)).statusOf id =
        ((marks id (first :: log)).getLast?.map Mark.status).getD .pending ∧
      ∀ reason, (marks id (first :: log)).getLast? = some (.skipped reason) →
        ((replay (first :: log)).resultOf (some id)).skipReason = reason := by
  have hmarks : marks id (first :: log) = marks id log := by
    simp [marks_cons, Event.mark?, hfirst, EventKind.mark?]
  rw [hmarks, RunState.status_of_eq, ← RunState.status_of_started hfirst hid {}]
  exact RunState.result_of_foldl hlog _ id

end BuildGraph
