import BuildGraph.Document.Run
import BuildGraph.History.Store

/-!
# Histories as documents

The documents of history entries and of what they add up to.
-/

namespace BuildGraph

open Document

/-- The document of a task of an entry. -/
def HistoryTask.toDocument (t : HistoryTask) : Document := object [
  ("task_id", ofText? t.taskId), ("task_name", ofText? t.taskName), ("task_kind", ofMember t.kind),
  ("status", text t.status), ("duration_ms", ofInt? t.durationMs), ("error", ofText? t.error)]

/-- A task of an entry from its document. -/
def HistoryTask.ofDocument (d : Document) : Except DocumentError HistoryTask := do
  let kind ← d.memberField "task_kind" Kind.custom
  return {
    taskId := d.textField? "task_id"
    taskName := d.textField? "task_name"
    kind, status := d.textField "status" ""
    durationMs := d.intField? "duration_ms"
    error := d.textField? "error" }

/-- The document of an entry. -/
def HistoryEntry.toDocument (e : HistoryEntry) : Document := object [
  ("id", text e.id), ("start_time", ofTime e.startTime), ("end_time", ofTime e.endTime),
  ("duration_ms", integer e.durationMs), ("status", ofMember e.status),
  ("total_tasks", integer e.totalTasks), ("success_count", integer e.successCount),
  ("failed_count", integer e.failedCount), ("skipped_count", integer e.skippedCount),
  ("task_results", list (e.tasks.map HistoryTask.toDocument)),
  ("logs", list (e.logs.map LogEntry.toDocument)), ("label", ofText? e.label)]

/-- An entry from its document. -/
def HistoryEntry.ofDocument (d : Document) : Except DocumentError HistoryEntry := do
  let status ← d.memberField "status" HistoryStatus.success
  let tasks ← (d.fieldItems "task_results").mapM HistoryTask.ofDocument
  let logs ← (d.fieldItems "logs").mapM LogEntry.ofDocument
  let number (key : String) : Int := (d.intField? key).getD 0
  return {
    id := d.textField "id" ""
    startTime := d.timeField "start_time"
    endTime := d.timeField "end_time"
    durationMs := number "duration_ms"
    status
    totalTasks := number "total_tasks"
    successCount := number "success_count"
    failedCount := number "failed_count"
    skippedCount := number "skipped_count"
    tasks, logs, label := d.textField? "label" }

/-- The record of a run from its document: results by key, and the rest of a state. -/
def RunRecord.ofDocument (d : Document) : Except DocumentError RunRecord := do
  let logs ← (d.fieldItems "logs").mapM LogEntry.ofDocument
  let results := Table.ofList ((d.fieldItems "task_results").map fun pair =>
    ((pair.items[0]?).bind asText?, pair.items[1]?.getD null))
  return {
    cancelled := d.boolField "cancelled" false
    startTime := (d.field? "start_time").bind asTime?
    endTime := (d.field? "end_time").bind asTime?
    tasks := results.entries.map fun (key, r) => {
      key, taskId := r.textField? "task_id", taskName := r.textField? "task_name"
      status := r.textField "status" "idle"
      durationMs := r.intField? "duration_ms"
      error := r.textField? "error" }
    logs }

/-- Why a step on a store is refused. -/
inductive StoreStepFault where
  | document (cause : DocumentError)
  | store (cause : StoreError)
  deriving DecidableEq, Repr

/-- Takes the step of a name on a store: the store afterwards, and the result. -/
def HistoryStore.perform (s : HistoryStore) (name : String) (arguments : List Document) :
    HistoryStore × Except StoreStepFault Document :=
  let given := arguments.headD null
  let id := given.asText
  let answer (r : Except StoreError Document) : HistoryStore × Except StoreStepFault Document :=
    (s, r.mapError .store)
  let change (r : Except StoreError (Document × HistoryStore)) :
      HistoryStore × Except StoreStepFault Document :=
    match r with
    | .ok (result, after) => (after, .ok result)
    | .error cause => (s, .error (.store cause))
  match name with
  | "add" =>
    match HistoryEntry.ofDocument given with
    | .error cause => (s, .error (.document cause))
    | .ok entry =>
      let (after, r) := s.add entry
      (after, (r.mapError .store).map fun _ => null)
  | "load" => answer ((s.load id).map HistoryEntry.toDocument)
  | "exists" => answer ((s.contains id).map bool)
  | "list_entries" =>
    answer (s.list.map fun entries => .list (entries.map HistoryEntry.toDocument))
  | "delete" => change ((s.delete id).map fun (found, after) => (bool found, after))
  | "clear" => change (s.clear.map fun after => (null, after))
  | "update_label" =>
    change ((s.updateLabel id ((arguments[1]?).bind asText?)).map fun (entry, after) =>
      (entry.toDocument, after))
  | "open" => (s.openStore, .ok null)
  | _ => (s.close, .ok null)

/-- The document of what entries add up to. -/
def HistoryStats.toDocument (s : HistoryStats) : Document := object [
  ("total_executions", integer s.total), ("successful_executions", integer s.successful),
  ("failed_executions", integer s.failed), ("average_duration_ms", integer s.averageMs),
  ("last_execution_time", ofTime? s.lastTime)]

end BuildGraph
