import BuildGraph.Named
import BuildGraph.Table
import BuildGraph.Time.Timestamp

/-!
# Events and the state of a run

A run is a log of events. The state of a run is what the events come to: `RunState.apply` gives
the state after one more event, and `replay` the state after all of them. Nothing else makes a
state.
-/

namespace BuildGraph

/-- How far a task has come. -/
inductive TaskStatus where
  | idle | pending | running | success | failed | skipped
  deriving DecidableEq, Repr

namespace TaskStatus

instance : Named TaskStatus where
  title := "TaskStatus"
  all := [idle, pending, running, success, failed, skipped]
  name
    | idle => "idle"
    | pending => "pending"
    | running => "running"
    | success => "success"
    | failed => "failed"
    | skipped => "skipped"

/-- Whether a task with the status is done with. -/
def isTerminal : TaskStatus → Bool
  | success | failed | skipped => true
  | _ => false

end TaskStatus

/-- The weight of an entry of a log. -/
inductive LogLevel where
  | info | warn | error | success | debug
  deriving DecidableEq, Repr

instance : Named LogLevel where
  title := "LogLevel"
  all := [.info, .warn, .error, .success, .debug]
  name
    | .info => "info"
    | .warn => "warn"
    | .error => "error"
    | .success => "success"
    | .debug => "debug"

/-- What a run knows about one task. -/
structure TaskResult where
  taskId : Option String
  taskName : Option String
  status : TaskStatus := .idle
  startTime : Option Timestamp := none
  endTime : Option Timestamp := none
  durationMs : Option Int := none
  output : Option String := none
  error : Option String := none
  skipReason : Option String := none
  deriving DecidableEq, Repr

/-- An entry of the log of a run. -/
structure LogEntry where
  timestamp : Timestamp
  level : LogLevel := .info
  message : String
  taskId : Option String := none
  taskName : Option String := none
  deriving DecidableEq, Repr

/-- What a run has come to. -/
structure RunState where
  isRunning : Bool := false
  isPaused : Bool := false
  cancelled : Bool := false
  startTime : Option Timestamp := none
  endTime : Option Timestamp := none
  /-- The ids of the tasks in the order in which they are visited. -/
  order : List String := []
  results : Table (Option String) TaskResult := ∅
  logs : List LogEntry := []
  deriving DecidableEq

/-- What the work on a task came to. -/
structure TaskOutcome where
  durationMs : Option Int := none
  output : Option String := none
  error : Option String := none
  deriving DecidableEq, Repr

/-- What an event reports. -/
inductive EventKind where
  | runStarted (order : List String) (names : Table String String)
  | taskStarted
  | taskOutput (line : String)
  | taskCompleted (outcome : TaskOutcome)
  | taskFailed (outcome : TaskOutcome)
  | taskSkipped (reason : Option String)
  | runPaused
  | runResumed
  | runAborted
  /-- The run is over. It says whether it was cancelled, or leaves that as it was. -/
  | runFinished (cancelled : Option Bool)
  | reset
  deriving DecidableEq

namespace EventKind

/-- The name of what an event reports. -/
def name : EventKind → String
  | runStarted .. => "runStarted"
  | taskStarted => "taskStarted"
  | taskOutput _ => "taskOutput"
  | taskCompleted _ => "taskCompleted"
  | taskFailed _ => "taskFailed"
  | taskSkipped _ => "taskSkipped"
  | runPaused => "runPaused"
  | runResumed => "runResumed"
  | runAborted => "runAborted"
  | runFinished _ => "runFinished"
  | reset => "reset"

end EventKind

/-- An entry of the log of events. -/
structure Event where
  kind : EventKind
  /-- The number of the run. -/
  run : Nat := 0
  timestamp : Timestamp
  taskId : Option String := none
  taskName : Option String := none
  level : LogLevel := .info
  /-- What is written to the log. An event without a message writes nothing. -/
  message : Option String := none
  deriving DecidableEq

namespace RunState

/-- What is known about a task, or what is known about a task at first. -/
def resultOf (s : RunState) (taskId : Option String) : TaskResult :=
  (s.results.get? taskId).getD { taskId, taskName := taskId }

/-- Changes what is known about a task. -/
def update (s : RunState) (taskId : Option String) (change : TaskResult → TaskResult) : RunState :=
  { s with results := s.results.set taskId (change (s.resultOf taskId)) }

/-- The status of a task. -/
def statusOf (s : RunState) (taskId : String) : TaskStatus :=
  ((s.results.get? (some taskId)).map TaskResult.status).getD .idle

/-- The number of tasks with a status. -/
def count (s : RunState) (status : TaskStatus) : Nat :=
  (s.results.values.filter fun r => r.status == status).length

/-- The results of tasks before any of them is visited. -/
def pendingResults (order : List String) (names : Table String String) :
    Table (Option String) TaskResult :=
  Table.ofList (order.map fun id =>
    (some id, {
      taskId := some id, taskName := some ((names.get? id).getD id), status := .pending }))

/-- The output of a task with one more line. -/
def joinOutput (output : Option String) (line : String) : String :=
  match output with
  | some text => if text = "" then line else text ++ "\n" ++ line
  | none => line

/-- Enters what the work on a task came to. -/
def close (s : RunState) (e : Event) (status : TaskStatus) (outcome : TaskOutcome) : RunState :=
  s.update e.taskId fun r => { r with
    status, endTime := some e.timestamp
    durationMs := outcome.durationMs, output := outcome.output, error := outcome.error }

/-- What an event does to a state, the log left out. -/
def applyKind (s : RunState) (e : Event) : RunState :=
  match e.kind with
  | .reset => {}
  | .runStarted order names => {
      isRunning := true, startTime := some e.timestamp, order
      results := pendingResults order names }
  | .taskStarted =>
    s.update e.taskId fun r => { r with status := .running, startTime := some e.timestamp }
  | .taskOutput line =>
    s.update e.taskId fun r => { r with output := some (joinOutput r.output line) }
  | .taskCompleted outcome => s.close e .success outcome
  | .taskFailed outcome => s.close e .failed outcome
  | .taskSkipped reason =>
    s.update e.taskId fun r => { r with
      status := .skipped, endTime := some e.timestamp, skipReason := reason }
  | .runPaused => { s with isPaused := true }
  | .runResumed | .runAborted => { s with isPaused := false }
  | .runFinished cancelled => { s with
      isRunning := false, isPaused := false, endTime := some e.timestamp
      cancelled := cancelled.getD s.cancelled }

/-- The entry that an event makes in the log. -/
def loggedAs? (e : Event) : Option LogEntry :=
  match e.message with
  | none => none
  | some message =>
    if message = "" then none
    else some {
      timestamp := e.timestamp, level := e.level, message
      taskId := e.taskId, taskName := e.taskName }

/-- The state after an event. A reset leaves nothing, not even a log of it. -/
def apply (s : RunState) (e : Event) : RunState :=
  let next := s.applyKind e
  match e.kind with
  | .reset => next
  | _ => { next with logs := next.logs ++ (loggedAs? e).toList }

end RunState

/-- The state that events come to. -/
def replay (events : List Event) : RunState := events.foldl RunState.apply {}

end BuildGraph
