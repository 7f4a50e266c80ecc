import BuildGraph.Graph.Basic
import BuildGraph.Run.Event

/-!
# Histories of runs

A finished run leaves an entry: when it ran, how it ended, what became of its tasks, and the last
entries of its log. Entries are kept newest first. Durations are whole milliseconds, and a history
reports how many runs succeeded and how long they took on average.

Main definitions: `HistoryEntry.summarize`, `HistoryStats.ofEntries?`, `formatDuration`.
-/

namespace BuildGraph

open BuildGraph.Number

/-- How a run ended. -/
inductive HistoryStatus where
  | success | failed
  /-- Some tasks failed and some succeeded. -/
  | mixed
  | cancelled
  deriving DecidableEq, Repr

instance : Named HistoryStatus where
  title := "HistoryStatus"
  all := [.success, .failed, .mixed, .cancelled]
  name
    | .success => "success"
    | .failed => "failed"
    | .mixed => "partial"
    | .cancelled => "cancelled"

/-- What became of a task. The status is the name of one. -/
structure HistoryTask where
  taskId : Option String
  taskName : Option String
  kind : Kind
  status : String
  durationMs : Option Int := none
  error : Option String := none
  deriving DecidableEq

/-- What is kept of a run. -/
structure HistoryEntry where
  id : String
  startTime : Timestamp
  endTime : Timestamp
  durationMs : Int
  status : HistoryStatus
  totalTasks : Int := 0
  successCount : Int := 0
  failedCount : Int := 0
  skippedCount : Int := 0
  tasks : List HistoryTask := []
  logs : List LogEntry := []
  label : Option String := none
  deriving DecidableEq

/-- What a run knows about a task at its end, filed under a key. -/
structure TaskRecord where
  key : Option String
  taskId : Option String
  taskName : Option String
  status : String
  durationMs : Option Int := none
  error : Option String := none
  deriving DecidableEq

/-- What a run has come to at its end. -/
structure RunRecord where
  cancelled : Bool := false
  startTime : Option Timestamp := none
  endTime : Option Timestamp := none
  tasks : List TaskRecord := []
  logs : List LogEntry := []
  deriving DecidableEq

/-- The record of a run in a state. -/
def RunState.record (s : RunState) : RunRecord where
  cancelled := s.cancelled
  startTime := s.startTime
  endTime := s.endTime
  tasks := s.results.entries.map fun (key, r) => {
    key, taskId := r.taskId, taskName := r.taskName, status := nameOf r.status
    durationMs := r.durationMs, error := r.error }
  logs := s.logs

/-- Why no entry or no statistics can be made. -/
inductive HistoryFault where
  /-- One of two readings lacks the offset of its clock. -/
  | mixedClocks
  | time (cause : TimeFault)
  /-- A quotient is out of range. -/
  | quotientTooLarge
  deriving DecidableEq, Repr

/-- The words for a fault. -/
def HistoryFault.message : HistoryFault → String
  | mixedClocks => "can't subtract offset-naive and offset-aware datetimes"
  | time cause => cause.message
  | quotientTooLarge => "integer division result too large for a float"

/-- The last items of a list, at most `count`. -/
def lastItems {α : Type} (count : Int) (xs : List α) : List α := xs.drop (xs.length - count.toNat)

/-- The number of tasks whose status has a name. -/
def countStatus (status : TaskStatus) (tasks : List HistoryTask) : Nat :=
  (tasks.filter fun t => t.status == nameOf status).length

/-- The last node of an id. -/
def Graph.lastNode? (g : Graph) (id : String) : Option Node :=
  g.nodes.reverse.find? fun n => n.id == id

namespace HistoryEntry

/-- What became of a recorded task, if its node is in the graph. -/
def task? (graph : Graph) (r : TaskRecord) : Option HistoryTask :=
  (r.key.bind graph.lastNode?).map fun n => {
    taskId := r.taskId, taskName := r.taskName, kind := n.kind, status := r.status
    durationMs := r.durationMs, error := r.error }

/-- How a run with the given tasks ended. -/
def statusOf (run : RunRecord) (tasks : List HistoryTask) : HistoryStatus :=
  if countStatus .failed tasks ≠ 0 then
    if countStatus .success tasks ≠ 0 then .mixed else .failed
  else if run.cancelled || run.endTime.isNone then .cancelled
  else .success

/-- The id of an entry made at a time. The suffix keeps ids of one time apart. -/
def idAt (now : Timestamp) (suffix : String) : String :=
  "exec_" ++ toString now.epochMilliseconds ++ "_" ++ suffix

/-- The entry of a run over a graph. `now` stands in for a missing time. -/
def summarize (run : RunRecord) (graph : Graph) (label : Option String) (maxLogs : Int)
    (now : Timestamp) (suffix : String) : Except HistoryFault HistoryEntry :=
  let tasks := run.tasks.filterMap (task? graph)
  let startTime := run.startTime.getD now
  let endTime := run.endTime.getD now
  match now.epochFault?, endTime.since? startTime with
  | some cause, _ => .error (.time cause)
  | none, none => .error .mixedClocks
  | none, some micros => .ok {
      id := idAt now suffix
      startTime, endTime
      durationMs := Duration.milliseconds micros
      status := statusOf run tasks
      totalTasks := tasks.length
      successCount := countStatus .success tasks
      failedCount := countStatus .failed tasks
      skippedCount := countStatus .skipped tasks
      tasks, logs := lastItems maxLogs run.logs, label }

end HistoryEntry

/-- What a history adds up to. -/
structure HistoryStats where
  total : Nat := 0
  successful : Nat := 0
  failed : Nat := 0
  averageMs : Int := 0
  lastTime : Option Timestamp := none
  deriving DecidableEq

/-- The durations of entries together. -/
def totalDuration (entries : List HistoryEntry) : Int :=
  entries.foldl (fun total e => total + e.durationMs) 0

/-- What entries add up to, newest first. The average is a quotient in the 64 bit format, rounded
to the nearest integer, the even one of two. -/
def HistoryStats.ofEntries? (entries : List HistoryEntry) : Except HistoryFault HistoryStats :=
  match entries with
  | [] => .ok {}
  | newest :: _ =>
    match Binary64.ofQuotient (totalDuration entries) entries.length with
    | .finite average => .ok {
        total := entries.length
        successful := (entries.filter fun e => e.status == .success).length
        failed := (entries.filter fun e => e.status == .failed).length
        averageMs := roundHalfEven average
        lastTime := some newest.startTime }
    | _ => .error .quotientTooLarge

/-- A duration in the two greatest units that it has. -/
def formatDuration (ms : Int) : String :=
  if ms < 1000 then toString ms ++ "ms"
  else if ms < 60000 then oneDecimal (Binary64.ofQuotient ms 1000).toRat ++ "s"
  else if ms < 3600000 then
    toString (ms / 60000) ++ "m " ++ toString (ms % 60000 / 1000) ++ "s"
  else toString (ms / 3600000) ++ "h " ++ toString (ms % 3600000 / 60000) ++ "m"

end BuildGraph
