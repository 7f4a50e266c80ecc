import BuildGraph.Graph.Basic
import BuildGraph.Guard.Evaluate
import BuildGraph.Run.Event
import BuildGraph.Run.Work
import BuildGraph.Variables.Reference

/-!
# Carrying out a graph

An orchestrator visits the tasks of a graph one by one, in the order of execution. It looks at the
guard of each, hands the work out and enters every step in the log of events. Before each task it
passes a gate, which a pause closes; an abort is noticed at the gate and never interrupts work. The
first task that fails ends the run and skips the others.

Between two calls from outside the orchestrator is idle, waits at the gate, or waits for work.
`start` begins a run and goes as far as possible, `report` and `finishWork` tell it about the work,
`wake` lets it go on from the gate, and `pause`, `resume`, `abort` and `reset` control it.

Main definitions: `Orchestrator`, `visit`, `finishWork`, `wake`.
-/

namespace BuildGraph

open BuildGraph.Number

/-- The readings of a clock, one for each call. -/
structure Clock where
  reading : Nat → Timestamp
  /-- The number of calls so far. -/
  calls : Nat := 0

namespace Clock

/-- The reading of the next call. -/
def now (c : Clock) : Timestamp := c.reading c.calls

/-- The clock after a call. -/
def tick (c : Clock) : Clock := { c with calls := c.calls + 1 }

/-- A clock that goes on by the same step at each call. -/
def stepping (start : Timestamp) (step : Int) : Clock where
  reading n := start.later (n * step)

/-- Whether every call so far had a reading that a clock can show. -/
def isInRange (c : Clock) : Bool :=
  (List.range c.calls).all fun n => (c.reading n).isInRange

end Clock

/-- The settings of a run. -/
structure RunOptions where
  projectPath : Option String := none
  arguments : List String := []
  /-- Seen by guards and by the work. -/
  environment : TextTable := ∅
  properties : TextTable := ∅
  /-- Whether guards also see the surrounding environment. -/
  inheritEnvironment : Bool := true
  deriving DecidableEq

/-- What is asked of a run. -/
structure RunPlan where
  graph : Graph
  targets : Option (List String) := none
  options : RunOptions := {}
  deriving DecidableEq

namespace RunPlan

/-- The ids of the tasks to visit. -/
def order (p : RunPlan) : List String := p.graph.executionOrder p.targets

/-- What the guards of a run see. -/
def guardContext (p : RunPlan) (surrounding : TextTable) : GuardContext where
  vars := effectiveValues p.graph.vars
  environment :=
    (if p.options.inheritEnvironment then surrounding else ∅).merge p.options.environment
  properties := p.options.properties

/-- The work request of a task. The variables of the graph become arguments. -/
def request (p : RunPlan) (n : Node) : WorkRequest where
  taskId := n.id
  taskName := n.identifier
  kind := n.kind
  config := some n.step.config
  projectPath := p.options.projectPath
  arguments := p.options.arguments ++
    p.graph.userVariables.map fun v => "-P" ++ v.name ++ "=" ++ v.effectiveValue
  environment := p.options.environment

/-- The names of tasks by id. -/
def names (p : RunPlan) (order : List String) : Table String String :=
  Table.ofList (order.map fun id => (id, ((p.graph.node? id).map Node.name).getD id))

end RunPlan

/-- Why a call is refused. -/
inductive RunError where
  | inProgress
  | notActive (action : String)
  deriving DecidableEq, Repr

/-- The words for a refusal. -/
def RunError.message : RunError → String
  | inProgress => "An execution is already in progress"
  | notActive action => "Cannot " ++ action ++ ": no execution is in progress"

/-- Why a run breaks off without an end. -/
inductive RunBreak where
  | guard (fault : PatternFault)
  | calledOff
  deriving DecidableEq, Repr

/-- What an orchestrator waits for. -/
inductive Phase where
  /-- The next run. It knows why the last one broke off, if it did. -/
  | idle (broken : Option RunBreak)
  /-- The gate before the first of the remaining tasks. `woken` tells that the gate was opened
  while it waited; it then goes on even if the gate is closed again. -/
  | atGate (plan : RunPlan) (woken : Bool) (remaining : List String)
  /-- The end of the work on a task, which began at a time. -/
  | working (plan : RunPlan) (node : Node) (started : Timestamp) (remaining : List String)
  deriving DecidableEq

/-- Carries out graphs, one at a time. -/
structure Orchestrator where
  clock : Clock
  /-- The surrounding environment. -/
  surrounding : TextTable := ∅
  events : List Event := []
  state : RunState := {}
  /-- What the work was asked to do in the last run, one request for each call. -/
  asked : List WorkRequest := []
  /-- The number of runs so far, which is the number of the last one. -/
  runs : Nat := 0
  aborted : Bool := false
  gateOpen : Bool := true
  phase : Phase := .idle none

namespace Orchestrator

/-- Whether a run is under way. -/
def isRunning (o : Orchestrator) : Bool :=
  match o.phase with
  | .idle _ => false
  | _ => true

/-- Enters an event in the log. -/
def record (o : Orchestrator) (kind : EventKind) (node : Option Node) (message : Option String)
    (level : LogLevel) : Orchestrator :=
  let e : Event := {
    kind, run := o.runs, timestamp := o.clock.now
    taskId := node.map Node.id, taskName := node.map Node.name, level, message }
  { o with clock := o.clock.tick, events := o.events ++ [e], state := o.state.apply e }

/-- Leaves the run. The gate is open afterwards. -/
def leave (o : Orchestrator) (broken : Option RunBreak) : Orchestrator :=
  { o with phase := .idle broken, gateOpen := true }

/-- The words and the level of the last event of a run. -/
def summary (s : RunState) (cancelled : Bool) : String × LogLevel :=
  let number (status : TaskStatus) : String := toString (s.count status)
  if cancelled then ("Execution cancelled", .warn)
  else if s.count .failed = 0 then
    ("Execution completed: " ++ number .success ++ " succeeded, " ++ number .skipped ++
      " skipped", .success)
  else
    ("Execution failed: " ++ number .failed ++ " failed, " ++ number .skipped ++ " skipped", .error)

/-- Ends the run. -/
def finish (o : Orchestrator) (cancelled : Bool) : Orchestrator :=
  let (message, level) := summary o.state cancelled
  (o.record (.runFinished (some cancelled)) none (some message) level).leave none

/-- Enters that a guard keeps a task from running. -/
def skipByGuard (o : Orchestrator) (n : Node) (refusal : GuardRefusal) : Orchestrator :=
  o.record (.taskSkipped (some refusal.message)) (some n)
    (some ("Skipped " ++ n.name ++ ": " ++ refusal.message)) .info

/-- The words for a task that is skipped because another failed. -/
def skipWords (failed : Node) : String := "Skipped because task \"" ++ failed.name ++ "\" failed"

/-- Enters that a task is skipped because another failed. -/
def skipAfter (failed : Node) (plan : RunPlan) (o : Orchestrator) (id : String) : Orchestrator :=
  o.record (.taskSkipped (some (skipWords failed))) (plan.graph.node? id) none .info

/-- Enters that a task failed, skips the remaining ones and ends the run. -/
def fail (o : Orchestrator) (plan : RunPlan) (n : Node) (result : WorkResult)
    (remaining : List String) : Orchestrator :=
  let cause := match result.error with
    | some error => if error = "" then "unknown error" else error
    | none => "unknown error"
  let o := o.record
    (.taskFailed {
      durationMs := some result.durationMs, output := some result.output, error := result.error })
    (some n) (some ("Task " ++ n.name ++ " failed: " ++ cause)) .error
  (remaining.foldl (skipAfter n plan) o).finish false

/-- The words for a time that was up. -/
def timeoutWords (n : Node) : String :=
  "Task timed out after " ++ ((n.timeoutMinutes.map toString).getD "None") ++ " minute(s)"

/-- The failed result of work that came to no result. It takes the time since the start. -/
def failedResult (o : Orchestrator) (started : Timestamp) (error : String) : WorkResult where
  success := false
  error := some error
  durationMs := Duration.milliseconds ((o.clock.now.since? started).getD 0)

/-- The words for a failure of the work on a task. -/
def failureWords (n : Node) (failure : WorkFailure) : String :=
  if failure.kind = timeoutKind then timeoutWords n
  else failure.kind ++ ": " ++ failure.words

/-- Whether the time for a task is up before its work begins. The run then waits until the work is
called off, which reports nothing. -/
def expiresAtOnce (n : Node) : Bool := n.timeoutMinutes.any (· < 0)

/-- Why the work on a task fails before it begins: no clock can measure its time. -/
def limitFailure? (n : Node) : Option String :=
  match n.timeoutMinutes with
  | none => none
  | some minutes =>
    if Binary64.nearest ((minutes * 60 : Int) : Rat) = .infinite false then
      some "OverflowError: int too large to convert to float"
    else none

/-- Calls for the work on a task and waits for it, or enters that it fails before it begins. -/
def begin (o : Orchestrator) (plan : RunPlan) (n : Node) (remaining : List String) :
    Orchestrator :=
  let entered := o.record .taskStarted (some n) (some ("Starting task: " ++ n.name)) .info
  let started := entered.clock.now
  let o := { entered with
    clock := entered.clock.tick, asked := entered.asked ++ [plan.request n] }
  match limitFailure? n with
  | none => { o with phase := .working plan n started remaining }
  | some words =>
    let result := o.failedResult started words
    { o with clock := o.clock.tick }.fail plan n result remaining

/-- Visits a task behind the gate. `next` is how the run goes on when a guard skips it. -/
def enter (plan : RunPlan) (id : String) (remaining : List String)
    (next : Orchestrator → Orchestrator) (o : Orchestrator) : Orchestrator :=
  if o.aborted then o.finish true
  else match plan.graph.node? id with
    | none => next o
    | some n =>
      match guardRefusal n.condition (plan.guardContext o.surrounding) with
      | .error fault => o.leave (some (.guard fault))
      | .ok (some refusal) => next (o.skipByGuard n refusal)
      | .ok none => o.begin plan n remaining

/-- Visits the remaining tasks, as far as possible without waiting. -/
def visit (plan : RunPlan) : (remaining : List String) → Orchestrator → Orchestrator
  | [], o => o.finish false
  | id :: rest, o =>
    if o.gateOpen then enter plan id rest (visit plan rest) o
    else { o with phase := .atGate plan false (id :: rest) }

/-- Begins a run and goes on as far as possible. -/
def start (o : Orchestrator) (plan : RunPlan) : Except RunError Orchestrator :=
  if o.isRunning then .error .inProgress
  else
    let order := plan.order
    let fresh := { o with
      runs := o.runs + 1
      aborted := false
      gateOpen := true
      events := []
      state := {}
      asked := [] }
    let begun := fresh.record (.runStarted order (plan.names order)) none
      (some ("Starting execution of " ++ toString order.length ++ " task(s)")) .info
    .ok (visit plan order begun)

/-- Goes on from the gate if it is open, or was opened while the run waited there. -/
def wake (o : Orchestrator) : Orchestrator :=
  match o.phase with
  | .atGate plan woken (id :: rest) =>
    if woken || o.gateOpen then enter plan id rest (visit plan rest) o else o
  | _ => o

/-- Enters a line that the work on a task reports. -/
def enterLine (o : Orchestrator) (n : Node) (line : String) : Orchestrator :=
  o.record (.taskOutput line) (some n) (some line) .info

/-- Enters a line of the work that the run waits for. -/
def report (o : Orchestrator) (line : String) : Orchestrator :=
  match o.phase with
  | .working _ n _ _ => o.enterLine n line
  | _ => o

/-- Enters the result of the work on a task and goes on as far as possible. -/
def conclude (o : Orchestrator) (plan : RunPlan) (n : Node) (remaining : List String)
    (result : WorkResult) : Orchestrator :=
  if result.success then
    visit plan remaining
      (o.record
        (.taskCompleted { durationMs := some result.durationMs, output := some result.output })
        (some n)
        (some ("Task " ++ n.name ++ " completed in " ++ toString result.durationMs ++ "ms"))
        .success)
  else o.fail plan n result remaining

/-- Takes note of the end of the work and goes on as far as possible. -/
def finishWork (o : Orchestrator) (ending : WorkEnd) : Orchestrator :=
  match o.phase with
  | .working plan n started remaining =>
    let failing (words : String) : Orchestrator :=
      { o with clock := o.clock.tick }.conclude plan n remaining (o.failedResult started words)
    match ending with
    | .returned result => o.conclude plan n remaining result
    | .failed failure => failing (failureWords n failure)
    | .expired => failing (timeoutWords n)
    | .calledOff => o.leave (some .calledOff)
  | _ => o

/-- Opens the gate and wakes a run that waits there. -/
def openGate (o : Orchestrator) : Orchestrator :=
  { o with
    gateOpen := true
    phase := match o.phase with
      | .atGate plan _ remaining => .atGate plan true remaining
      | phase => phase }

/-- Closes the gate before the next task. -/
def pause (o : Orchestrator) : Except RunError Orchestrator :=
  if !o.isRunning then .error (.notActive "pause")
  else if o.state.isPaused || o.aborted then .ok o
  else .ok ({ o with gateOpen := false }.record .runPaused none (some "Execution paused") .warn)

/-- Opens the gate after a pause. -/
def resume (o : Orchestrator) : Except RunError Orchestrator :=
  if !o.isRunning then .error (.notActive "resume")
  else if !o.state.isPaused then .ok o
  else .ok (o.record .runResumed none (some "Execution resumed") .info).openGate

/-- Ends the run before its next task. -/
def abort (o : Orchestrator) : Except RunError Orchestrator :=
  if !o.isRunning then .error (.notActive "abort")
  else if o.aborted then .ok o
  else .ok ({ o with aborted := true }.record .runAborted none
    (some "Execution cancelled by user") .warn).openGate

/-- Forgets the events of the last run. -/
def reset (o : Orchestrator) : Except RunError Orchestrator :=
  if o.isRunning then .error .inProgress
  else .ok { o with events := [], state := {} }

end Orchestrator

end BuildGraph
