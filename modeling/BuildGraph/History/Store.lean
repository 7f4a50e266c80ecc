import BuildGraph.History.Entry
import BuildGraph.Text.Quoted

/-!
# Stores of history entries

A store keeps the newest entries of a history, up to a number. It keeps the times of an entry in
universal time and only the last entries of its log. A store is closed at first; what it holds
outlives a closing.

What a store holds are two tables. The rows of the first are entries, keyed by their id, and a
sequence number in each tells which of two is newer. The rows of the second are the tasks of the
entries, keyed by the id of the entry and a position. Neither table has an order of its own: every
query sorts.

Main definitions: `HistoryStore.add`, `HistoryStore.entries`, `HistoryStore.load`,
`HistoryStore.delete`.
-/

namespace BuildGraph

/-- A row of the table of entries. Its key is the id. -/
structure EntryRow where
  id : String
  /-- Orders the rows: a newer one has a greater number. -/
  sequence : Nat
  /-- Microseconds of universal time since the start of year one. -/
  startTime : Int
  endTime : Int
  durationMs : Int
  status : HistoryStatus
  totalTasks : Int
  successCount : Int
  failedCount : Int
  skippedCount : Int
  label : Option String
  logs : List LogEntry
  deriving DecidableEq

/-- A row of the table of tasks. Its key is the id of the entry and the position. -/
structure TaskRow where
  entryId : String
  position : Nat
  task : HistoryTask
  deriving DecidableEq

/-- The row of an entry, with the last entries of its log. -/
def HistoryEntry.row (e : HistoryEntry) (sequence : Nat) (maxLogs : Int) : EntryRow where
  id := e.id
  sequence := sequence
  startTime := e.startTime.toUniversal.micros
  endTime := e.endTime.toUniversal.micros
  durationMs := e.durationMs
  status := e.status
  totalTasks := e.totalTasks
  successCount := e.successCount
  failedCount := e.failedCount
  skippedCount := e.skippedCount
  label := e.label
  logs := lastItems maxLogs e.logs

/-- The rows of the tasks of an entry, in order. -/
def TaskRow.ofTasks (entryId : String) (tasks : List HistoryTask) : List TaskRow :=
  tasks.mapIdx fun position task => ⟨entryId, position, task⟩

/-- The entry that a row and its tasks make. -/
def EntryRow.entry (r : EntryRow) (tasks : List HistoryTask) : HistoryEntry where
  id := r.id
  startTime := ⟨r.startTime, some 0⟩
  endTime := ⟨r.endTime, some 0⟩
  durationMs := r.durationMs
  status := r.status
  totalTasks := r.totalTasks
  successCount := r.successCount
  failedCount := r.failedCount
  skippedCount := r.skippedCount
  tasks := tasks
  logs := r.logs
  label := r.label

/-- A store of entries. -/
structure HistoryStore where
  maxEntries : Int
  maxLogs : Int
  isOpen : Bool := false
  rows : List EntryRow := []
  taskRows : List TaskRow := []
  deriving DecidableEq

/-- Why a store refuses a call. -/
inductive StoreError where
  | closed (call : String)
  | unknownEntry (id : String)
  | numberTooLarge
  | time (cause : TimeFault)
  deriving DecidableEq, Repr

/-- The words for a refusal. -/
def StoreError.message : StoreError → String
  | closed call => "open() must be called before " ++ call ++ "()"
  | unknownEntry id => Text.display ("History entry not found: " ++ id)
  | time cause => cause.message
  | numberTooLarge => "Python int too large to convert to SQLite INTEGER"

/-- Whether a number fits into 64 bits. -/
def fitsStore (n : Int) : Bool := -9223372036854775808 ≤ n && n < 9223372036854775808

/-- The numbers of an entry. -/
def HistoryEntry.numbers (e : HistoryEntry) : List Int :=
  [e.durationMs, e.totalTasks, e.successCount, e.failedCount, e.skippedCount] ++
    e.tasks.filterMap HistoryTask.durationMs

namespace HistoryStore

/-- Opens the store. -/
def openStore (s : HistoryStore) : HistoryStore := { s with isOpen := true }

/-- Closes the store. -/
def close (s : HistoryStore) : HistoryStore := { s with isOpen := false }

/-- Refuses a call on a closed store. -/
def requireOpen (s : HistoryStore) (call : String) : Except StoreError Unit :=
  if s.isOpen then .ok () else .error (.closed call)

/-- Refuses an entry that cannot be kept: a time that universal time does not have, then a number
that is too large. -/
def requireKeepable (e : HistoryEntry) : Except StoreError Unit := do
  let _ ← e.startTime.universal?.mapError .time
  let _ ← e.endTime.universal?.mapError .time
  if !e.numbers.all fitsStore then throw .numberTooLarge

/-- The rows of entries, newest first. -/
def newestRows (s : HistoryStore) : List EntryRow :=
  s.rows.mergeSort fun a b => decide (b.sequence ≤ a.sequence)

/-- The row of an id. -/
def row? (s : HistoryStore) (id : String) : Option EntryRow := s.rows.find? fun r => r.id == id

/-- The tasks of an entry, by position. -/
def tasksOf (s : HistoryStore) (id : String) : List HistoryTask :=
  ((s.taskRows.filter fun t => t.entryId == id).mergeSort
    fun a b => decide (a.position ≤ b.position)).map TaskRow.task

/-- The entry of a row. -/
def entryOf (s : HistoryStore) (r : EntryRow) : HistoryEntry := r.entry (s.tasksOf r.id)

/-- The entries, newest first. -/
def entries (s : HistoryStore) : List HistoryEntry := s.newestRows.map s.entryOf

/-- The sequence number of the next entry. -/
def nextSequence (s : HistoryStore) : Nat := ((s.rows.map EntryRow.sequence).max?).getD 0 + 1

/-- Deletes the rows of the tasks of an entry. -/
def dropTasks (s : HistoryStore) (id : String) : HistoryStore :=
  { s with taskRows := s.taskRows.filter fun t => t.entryId != id }

/-- Deletes the row of an entry and the rows of its tasks. -/
def remove (s : HistoryStore) (id : String) : HistoryStore :=
  { s.dropTasks id with rows := s.rows.filter fun r => r.id != id }

/-- Writes a row over the one of the same id, or as a new one. -/
def writeRow (s : HistoryStore) (row : EntryRow) : HistoryStore :=
  { s with rows := match s.row? row.id with
    | some _ => s.rows.map fun r => if r.id = row.id then row else r
    | none => s.rows ++ [row] }

/-- Writes an entry as the newest, over one of the same id and its tasks. -/
def put (s : HistoryStore) (e : HistoryEntry) : HistoryStore :=
  let written := (s.writeRow (e.row s.nextSequence s.maxLogs)).dropTasks e.id
  { written with taskRows := written.taskRows ++ TaskRow.ofTasks e.id e.tasks }

/-- Deletes the entries beyond a number, the oldest ones. -/
def cut (s : HistoryStore) (count : Nat) : HistoryStore :=
  (s.newestRows.drop count).foldl (fun s r => s.remove r.id) s

/-- Deletes the entries beyond the greatest number. A number out of the range of the store is
refused. -/
def trim (s : HistoryStore) : HistoryStore × Except StoreError Unit :=
  if fitsStore s.maxEntries then (s.cut s.maxEntries.toNat, .ok ())
  -- sequence numbers lie in the same range, so no store has entries beyond a number above it
  else (if s.maxEntries < 0 then s else s.cut s.maxEntries.toNat, .error .numberTooLarge)

/-- Adds an entry as the newest and drops entries beyond the greatest number. A refusal of the
latter leaves the entry in the store. -/
def add (s : HistoryStore) (e : HistoryEntry) : HistoryStore × Except StoreError Unit :=
  match s.requireOpen "add", requireKeepable e with
  | .ok (), .ok () => (s.put e).trim
  | .error refusal, _ | .ok (), .error refusal => (s, .error refusal)

/-- The row of an id, for a caller of a name. -/
def getRow (s : HistoryStore) (call id : String) : Except StoreError EntryRow := do
  s.requireOpen call
  match s.row? id with
  | some r => .ok r
  | none => throw (.unknownEntry id)

/-- The entry of an id. -/
def load (s : HistoryStore) (id : String) : Except StoreError HistoryEntry :=
  (s.getRow "load" id).map s.entryOf

/-- Whether there is an entry of an id. -/
def contains (s : HistoryStore) (id : String) : Except StoreError Bool := do
  s.requireOpen "exists"
  return (s.row? id).isSome

/-- The entries, newest first. -/
def list (s : HistoryStore) : Except StoreError (List HistoryEntry) := do
  s.requireOpen "list_entries"
  return s.entries

/-- Deletes the entry of an id and tells whether there was one. -/
def delete (s : HistoryStore) (id : String) : Except StoreError (Bool × HistoryStore) := do
  s.requireOpen "delete"
  match s.row? id with
  | some _ => return (true, s.remove id)
  | none => return (false, s)

/-- The store without any rows. -/
def emptied (s : HistoryStore) : HistoryStore := { s with rows := [], taskRows := [] }

/-- Deletes all entries. -/
def clear (s : HistoryStore) : Except StoreError HistoryStore := do
  s.requireOpen "clear"
  return s.emptied

/-- Sets the label of an entry. An empty label is none. -/
def updateLabel (s : HistoryStore) (id : String) (label : Option String) :
    Except StoreError (HistoryEntry × HistoryStore) := do
  let row ← s.getRow "update_label" id
  let labelled := { row with label := label.filter (· ≠ "") }
  return (s.entryOf labelled, s.writeRow labelled)

end HistoryStore

end BuildGraph
