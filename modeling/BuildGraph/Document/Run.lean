import BuildGraph.Document.Decode
import BuildGraph.Run.Orchestrator

/-!
# Runs as documents

The documents of requests, results, events and states. Points in time are written in the extended
format of ISO 8601.
-/

namespace BuildGraph

open Document

/-- A point in time as a value. -/
def Document.ofTime (t : Timestamp) : Document := text t.render

/-- A point in time that may be missing, as a value. -/
def Document.ofTime? (t : Option Timestamp) : Document := (t.map ofTime).getD null

/-- A point in time from a value that may be null. -/
def Document.asTime? (d : Document) : Option Timestamp := d.asText?.bind Timestamp.read?

/-- A point in time from a field, or the start of year one. -/
def Document.timeField (d : Document) (key : String) : Timestamp :=
  ((d.field? key).bind asTime?).getD ⟨0, none⟩

/-- The document of a request. -/
def WorkRequest.toDocument (r : WorkRequest) : Document := object [
  ("task_id", text r.taskId), ("task_name", text r.taskName), ("kind", ofMember r.kind),
  ("config", (r.config.map Config.toDocument).getD null),
  ("project_path", ofText? r.projectPath), ("arguments", ofTexts r.arguments),
  ("environment", ofTable r.environment)]

/-- A request from its document. -/
def WorkRequest.ofDocument (d : Document) : Except DocumentError WorkRequest := do
  let kind ← d.memberField "kind" Kind.custom
  let step ← Step.ofDocument kind ((d.field? "config").getD .null)
  return {
    taskId := d.textField "task_id" "n1"
    taskName := d.textField "task_name" ""
    kind, config := some step.config
    projectPath := d.textField? "project_path"
    arguments := d.textsField "arguments" []
    environment := d.tableField "environment" }

/-- The document of a result. -/
def WorkResult.toDocument (r : WorkResult) : Document := object [
  ("success", bool r.success), ("output", text r.output), ("error", ofText? r.error),
  ("exit_code", ofInt? r.exitCode), ("duration_ms", integer r.durationMs)]

/-- A result from its document. -/
def WorkResult.ofDocument (d : Document) : WorkResult where
  success := d.boolField "success" true
  output := d.textField "output" ""
  error := d.textField? "error"
  exitCode := d.intField? "exit_code"
  durationMs := (d.intField? "duration_ms").getD 0

/-- The settings of a run from their document. Guards see the surrounding environment only if the
document says so. -/
def RunOptions.ofDocument (d : Document) : RunOptions where
  projectPath := d.textField? "project_path"
  arguments := d.textsField "arguments" []
  environment := d.tableField "environment"
  properties := d.tableField "properties"
  inheritEnvironment := d.boolField "inherit_environment" false

/-- The document of an entry of a log. -/
def LogEntry.toDocument (l : LogEntry) : Document := object [
  ("timestamp", ofTime l.timestamp), ("level", ofMember l.level), ("message", text l.message),
  ("task_id", ofText? l.taskId), ("task_name", ofText? l.taskName)]

/-- An entry of a log from its document. -/
def LogEntry.ofDocument (d : Document) : Except DocumentError LogEntry := do
  let level ← d.memberField "level" LogLevel.info
  return {
    timestamp := d.timeField "timestamp"
    level, message := d.textField "message" ""
    taskId := d.textField? "task_id"
    taskName := d.textField? "task_name" }

/-- The fields of what a run knows about a task. -/
def TaskResult.toFields (r : TaskResult) : List (String × Document) := [
  ("task_id", ofText? r.taskId), ("task_name", ofText? r.taskName),
  ("status", ofMember r.status), ("start_time", ofTime? r.startTime),
  ("end_time", ofTime? r.endTime), ("duration_ms", ofInt? r.durationMs),
  ("output", ofText? r.output), ("error", ofText? r.error),
  ("skip_reason", ofText? r.skipReason)]

/-- What a run knows about a task, from its document. -/
def TaskResult.ofDocument (d : Document) : Except DocumentError TaskResult := do
  let status ← d.memberField "status" TaskStatus.idle
  return {
    taskId := d.textField? "task_id"
    taskName := d.textField? "task_name"
    status
    startTime := (d.field? "start_time").bind asTime?
    endTime := (d.field? "end_time").bind asTime?
    durationMs := d.intField? "duration_ms"
    output := d.textField? "output"
    error := d.textField? "error"
    skipReason := d.textField? "skip_reason" }

/-- The document of a state whose results are written in a way of their own. -/
def RunState.toDocumentWith (results : Document) (s : RunState) : Document := object [
  ("is_running", bool s.isRunning), ("is_paused", bool s.isPaused),
  ("cancelled", bool s.cancelled), ("start_time", ofTime? s.startTime),
  ("end_time", ofTime? s.endTime), ("execution_order", ofTexts s.order),
  ("task_results", results), ("logs", list (s.logs.map LogEntry.toDocument))]

/-- The document of a state, with the results as a list. Each names its key. -/
def RunState.toDocument (s : RunState) : Document :=
  s.toDocumentWith (list (s.results.entries.map fun entry =>
    object (("key", ofText? entry.1) :: entry.2.toFields)))

/-- What an event carries, as a value. -/
def EventKind.toDocument : EventKind → Document
  | runStarted order names => object [
      ("execution_order", ofTexts order), ("task_names", ofTable names)]
  | taskOutput line => object [("line", text line)]
  | taskCompleted o => object [
      ("output", ofText? o.output), ("duration_ms", ofInt? o.durationMs)]
  | taskFailed o => object [
      ("output", ofText? o.output), ("error", ofText? o.error),
      ("duration_ms", ofInt? o.durationMs)]
  | taskSkipped reason => object [("skip_reason", ofText? reason)]
  | runFinished (some cancelled) => object [("cancelled", bool cancelled)]
  | _ => object []

/-- The document of an event. -/
def Event.toDocument (e : Event) : Document := object [
  ("type", text e.kind.name), ("timestamp", ofTime e.timestamp), ("task_id", ofText? e.taskId),
  ("task_name", ofText? e.taskName), ("level", ofMember e.level),
  ("message", ofText? e.message), ("data", e.kind.toDocument)]

/-- What the work on a task came to, from its document. -/
def TaskOutcome.ofDocument (d : Document) : TaskOutcome where
  durationMs := d.intField? "duration_ms"
  output := d.textField? "output"
  error := d.textField? "error"

/-- What an event of a name reports, from the document of what it carries. -/
def EventKind.ofDocument (name data : Document) : Except DocumentError EventKind :=
  let kinds : List EventKind := [
    .runStarted (data.textsField "execution_order" []) (data.tableField "task_names"),
    .taskStarted, .taskOutput (data.textField "line" ""),
    .taskCompleted (TaskOutcome.ofDocument data), .taskFailed (TaskOutcome.ofDocument data),
    .taskSkipped (data.textField? "skip_reason"), .runPaused, .runResumed, .runAborted,
    .runFinished ((data.field? "cancelled").map fun _ => data.boolField "cancelled" false),
    .reset]
  match kinds.find? fun k => k.name == name.asText with
  | some kind => .ok kind
  | none => .error (.notAMember "ExecutionEventType" name.shown)

/-- An event from its document. The level is looked at before the type. -/
def Event.ofDocument (d : Document) : Except DocumentError Event := do
  let level ← d.memberField "level" LogLevel.info
  let kind ← EventKind.ofDocument ((d.field? "type").getD .null)
    ((d.field? "data").getD (object []))
  return {
    kind, level
    timestamp := d.timeField "timestamp"
    taskId := d.textField? "task_id"
    taskName := d.textField? "task_name"
    message := d.textField? "message" }

end BuildGraph
