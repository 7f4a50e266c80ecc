import BuildGraph.Proofs.History.Tables

/-!
# A store is a list of entries

To a caller the tables of an open store are a plain list of entries, newest first. `listAfter` says
what a call makes of the list, `Matches.apply` that the tables follow it in every call, and
`store_answers_as_list` that a store answers as the list does, after any calls.
-/

namespace BuildGraph

/-- A change that is asked of a store. -/
inductive StoreCall where
  | add (e : HistoryEntry)
  | delete (id : String)
  | clear
  | updateLabel (id : String) (label : Option String)

/-- The store after a call. -/
def StoreCall.apply (s : HistoryStore) : StoreCall → HistoryStore
  | add e => (s.add e).1
  | delete id => match s.delete id with
    | .ok (_, after) => after
    | .error _ => s
  | clear => match s.clear with
    | .ok after => after
    | .error _ => s
  | updateLabel id label => match s.updateLabel id label with
    | .ok (_, after) => after
    | .error _ => s

namespace HistoryEntry

/-- The form in which an entry is kept: its times in universal time, and the last entries of its
log. -/
def kept (e : HistoryEntry) (maxLogs : Int) : HistoryEntry := { e with
  startTime := e.startTime.toUniversal
  endTime := e.endTime.toUniversal
  logs := lastItems maxLogs e.logs }

/-- Whether universal time has the times of an entry and its numbers are not too large. -/
def isKeepable (e : HistoryEntry) : Bool :=
  e.startTime.toUniversal.isInRange && e.endTime.toUniversal.isInRange &&
    e.numbers.all fitsStore

/-- An entry with a label. An empty label is none. -/
def labelled (e : HistoryEntry) (label : Option String) : HistoryEntry :=
  { e with label := label.filter (· ≠ "") }

end HistoryEntry

/-- What a call makes of a list of entries, newest first. -/
def listAfter (maxEntries maxLogs : Int) (entries : List HistoryEntry) :
    StoreCall → List HistoryEntry
  | .add e =>
    if e.isKeepable then
      (e.kept maxLogs :: entries.filter fun other => other.id != e.id).take maxEntries.toNat
    else entries
  | .delete id => entries.filter fun e => e.id != id
  | .clear => []
  | .updateLabel id label => entries.map fun e => if e.id = id then e.labelled label else e

namespace HistoryStore

/-- An open store answers as a list of entries does. -/
structure AnswersAs (s : HistoryStore) (entries : List HistoryEntry) : Prop where
  list_eq : s.list = .ok entries
  load_eq : ∀ id, s.load id = match entries.find? fun e => e.id == id with
    | some e => .ok e
    | none => .error (.unknownEntry id)
  contains_eq : ∀ id, s.contains id = .ok (entries.any fun e => e.id == id)
  /-- An entry that can be kept is accepted. -/
  add_eq : ∀ e, e.isKeepable = true → fitsStore s.maxEntries = true → (s.add e).2 = .ok ()
  delete_eq : ∀ id, (s.delete id).map Prod.fst = .ok (entries.any fun e => e.id == id)
  updateLabel_eq : ∀ id label, (s.updateLabel id label).map Prod.fst =
    match entries.find? fun e => e.id == id with
    | some e => .ok (e.labelled label)
    | none => .error (.unknownEntry id)
  distinct : (entries.map HistoryEntry.id).Nodup
  /-- The rows of tasks are those of the entries, and no others. -/
  taskRows : s.taskRows.Perm (entries.flatMap fun e => TaskRow.ofTasks e.id e.tasks)

/-- The settings of a store, and whether it is open. -/
def settings (s : HistoryStore) : Int × Int × Bool := (s.maxEntries, s.maxLogs, s.isOpen)

/-- An open store with bounds holds a list of entries. -/
structure Matches (s : HistoryStore) (maxEntries maxLogs : Int) (entries : List HistoryEntry) :
    Prop where
  settings : s.settings = (maxEntries, maxLogs, true)
  held : ∃ held, s.Holds held ∧ held.map HeldEntry.entry = entries

variable {s : HistoryStore} {maxEntries maxLogs : Int} {entries : List HistoryEntry}

section Answers

theorem Matches.requireOpen (h : s.Matches maxEntries maxLogs entries) (call : String) :
    s.requireOpen call = .ok () := by
  have hopen : s.isOpen = true := congrArg (fun x => x.2.2) h.settings
  rw [HistoryStore.requireOpen, if_pos hopen]

theorem require_keepable_eq_ok {e : HistoryEntry} :
    requireKeepable e = .ok () ↔ e.isKeepable = true := by
  simp only [requireKeepable, Timestamp.universal?, HistoryEntry.isKeepable]
  cases e.startTime.toUniversal.isInRange <;> cases e.endTime.toUniversal.isInRange <;>
    cases e.numbers.all fitsStore <;> simp [Except.mapError, bind, Except.bind, pure, Except.pure,
      throw, throwThe, MonadExceptOf.throw]

theorem find?_map_entry (held : List HeldEntry) (id : String) :
    ((held.map HeldEntry.entry).find? fun e => e.id == id) =
      (held.find? fun x => x.row.id == id).map HeldEntry.entry := by
  rw [List.find?_map]
  rfl

theorem any_map_entry (held : List HeldEntry) (id : String) :
    ((held.map HeldEntry.entry).any fun e => e.id == id) =
      (held.find? fun x => x.row.id == id).isSome := by
  rw [List.any_map, Bool.eq_iff_iff, List.any_eq_true, List.find?_isSome]
  rfl

theorem Matches.get_row (h : s.Matches maxEntries maxLogs entries) (call id : String) :
    s.getRow call id = match s.row? id with
      | some r => .ok r
      | none => .error (.unknownEntry id) := by
  rw [HistoryStore.getRow, h.requireOpen]
  rfl

/-- A store answers as the list that it holds. -/
theorem Matches.answers (h : s.Matches maxEntries maxLogs entries) : s.AnswersAs entries := by
  obtain ⟨held, hheld, rfl⟩ := h.held
  have hentry : ∀ {id x}, (held.find? fun x => x.row.id == id) = some x → x ∈ held :=
    fun hx => List.mem_of_find?_eq_some hx
  refine ⟨?_, fun id => ?_, fun id => ?_, fun e he hfits => ?_, fun id => ?_, fun id label => ?_,
    ?_, ?_⟩
  · rw [list, h.requireOpen, hheld.entries]
    rfl
  · rw [load, h.get_row, hheld.row?, find?_map_entry]
    cases hx : held.find? fun x => x.row.id == id with
    | none => rfl
    | some x => exact congrArg Except.ok (hheld.entryOf (hentry hx))
  · rw [contains, h.requireOpen, hheld.row?, any_map_entry, Option.isSome_map]
    rfl
  · rw [add, h.requireOpen, require_keepable_eq_ok.2 he]
    simp [trim, HistoryStore.put, writeRow, dropTasks, hfits]
  · rw [delete, h.requireOpen, hheld.row?, any_map_entry]
    cases held.find? fun x => x.row.id == id <;> rfl
  · rw [updateLabel, h.get_row, hheld.row?, find?_map_entry]
    cases hx : held.find? fun x => x.row.id == id with
    | none => rfl
    | some x =>
        refine congrArg Except.ok ?_
        have htasks := hheld.tasksOf (hentry hx)
        show EntryRow.entry _ (s.tasksOf x.row.id) = _
        rw [htasks]
        rfl
  · rw [List.map_map]
    exact hheld.ids
  · rw [List.flatMap_map]
    exact hheld.taskRows

end Answers

section Calls

/-- Removing rows leaves the settings. -/
theorem settings_cut (s : HistoryStore) (count : Nat) : (s.cut count).settings = s.settings := by
  rw [cut]
  generalize s.newestRows.drop count = rows
  induction rows generalizing s with
  | nil => rfl
  | cons r rows ih => exact ih (s.remove r.id)

theorem trim_fst (hmax : 0 ≤ s.maxEntries) : s.trim.1 = s.cut s.maxEntries.toNat := by
  rw [trim]
  split
  · rfl
  · rw [if_neg (by omega)]

theorem filter_map_entry (held : List HeldEntry) (id : String) :
    (held.filter fun x => x.row.id != id).map HeldEntry.entry =
      (held.map HeldEntry.entry).filter fun e => e.id != id := by
  rw [List.filter_map]
  rfl

theorem entry_relabel (x : HeldEntry) (id : String) (label : Option String) :
    (x.relabel id (label.filter (· ≠ ""))).entry =
      if x.entry.id = id then x.entry.labelled label else x.entry := by
  have hid : x.entry.id = x.row.id := rfl
  rw [HeldEntry.relabel, hid]
  split <;> rfl

/-- A store that adds an entry puts it in front and cuts off the oldest. -/
theorem Matches.add (h : s.Matches maxEntries maxLogs entries) (hmax : 0 ≤ maxEntries)
    (e : HistoryEntry) :
    (s.add e).1.Matches maxEntries maxLogs (listAfter maxEntries maxLogs entries (.add e)) := by
  obtain ⟨held, hheld, rfl⟩ := h.held
  obtain ⟨rfl, rfl, -⟩ : s.maxEntries = maxEntries ∧ s.maxLogs = maxLogs ∧ s.isOpen = true := by
    simpa [HistoryStore.settings] using h.settings
  rw [HistoryStore.add, h.requireOpen, listAfter]
  cases hkeep : requireKeepable e with
  | error cause =>
      have hnot : ¬ e.isKeepable = true := fun hyes => by
        simp [require_keepable_eq_ok.2 hyes] at hkeep
      rw [if_neg hnot]
      exact h
  | ok =>
      rw [if_pos (require_keepable_eq_ok.1 hkeep)]
      refine ⟨?_, _, (trim_fst (s := s.put e) hmax) ▸ (hheld.put e).cut _, ?_⟩
      · show (s.put e).trim.1.settings = _
        rw [trim_fst (s := s.put e) hmax, settings_cut]
        exact h.settings
      · rw [List.map_take, List.map_cons, filter_map_entry]
        rfl

/-- A store follows the list in every call. -/
theorem Matches.apply (h : s.Matches maxEntries maxLogs entries) (hmax : 0 ≤ maxEntries)
    (c : StoreCall) :
    (c.apply s).Matches maxEntries maxLogs (listAfter maxEntries maxLogs entries c) := by
  cases c with
  | add e => exact h.add hmax e
  | delete id =>
      obtain ⟨held, hheld, rfl⟩ := h.held
      rw [StoreCall.apply, delete, h.requireOpen, hheld.row?, listAfter, ← filter_map_entry]
      cases hx : held.find? fun x => x.row.id == id with
      | none =>
          refine ⟨h.settings, held, hheld, ?_⟩
          rw [List.filter_eq_self.2 fun x hx' => by simpa using List.find?_eq_none.1 hx x hx']
      | some x => exact ⟨h.settings, _, hheld.remove id, rfl⟩
  | clear =>
      rw [StoreCall.apply, clear, h.requireOpen]
      exact ⟨h.settings, [], .emptied s, rfl⟩
  | updateLabel id label =>
      obtain ⟨held, hheld, rfl⟩ := h.held
      rw [StoreCall.apply, updateLabel, h.get_row, hheld.row?, listAfter, List.map_map]
      simp only [Function.comp_def, ← entry_relabel]
      cases hx : held.find? fun x => x.row.id == id with
      | none =>
          refine ⟨h.settings, held, hheld, List.map_congr_left fun x hx' => ?_⟩
          rw [HeldEntry.relabel, if_neg (by simpa using List.find?_eq_none.1 hx x hx')]
      | some x =>
          have hmem : x ∈ held := List.mem_of_find?_eq_some hx
          obtain rfl : x.row.id = id := by simpa using List.find?_some hx
          exact ⟨h.settings, _, hheld.relabel hmem _, List.map_map⟩

theorem Matches.apply_all (h : s.Matches maxEntries maxLogs entries) (hmax : 0 ≤ maxEntries)
    (calls : List StoreCall) :
    (calls.foldl StoreCall.apply s).Matches maxEntries maxLogs
      (calls.foldl (listAfter maxEntries maxLogs) entries) := by
  induction calls generalizing s entries with
  | nil => exact h
  | cons c calls ih => exact ih (h.apply hmax c)

end Calls

end HistoryStore

/-- After any calls an open store answers as a plain list of entries: an entry that is added comes
in front of the others, without the one of its id, and the list is cut to its greatest length; an
entry that is deleted is taken out; and a label is set on one entry. -/
theorem store_answers_as_list (maxEntries maxLogs : Int) (hmax : 0 ≤ maxEntries)
    (calls : List StoreCall) :
    (calls.foldl StoreCall.apply { maxEntries, maxLogs, isOpen := true }).AnswersAs
      (calls.foldl (listAfter maxEntries maxLogs) []) := by
  have hfresh :
      HistoryStore.Matches { maxEntries, maxLogs, isOpen := true } maxEntries maxLogs [] :=
    ⟨rfl, [], ⟨.nil, .nil, .nil, .nil⟩, rfl⟩
  exact (hfresh.apply_all hmax calls).answers

/-- A store for two entries: the first entry comes to the front again with other tasks, and the
second is cut off. -/
theorem store_answers_as_list_replaced :
    let task (name : String) : HistoryTask := {
      taskId := some name, taskName := some name, kind := .custom, status := "success" }
    let entry (id : String) (tasks : List HistoryTask) : HistoryEntry := {
      id, startTime := ⟨1, none⟩, endTime := ⟨2, none⟩, durationMs := 0, status := .success, tasks }
    let calls : List StoreCall := [
      .add (entry "a" [task "x", task "y"]), .add (entry "b" [task "x"]),
      .add (entry "a" [task "z"]), .add (entry "c" [])]
    let s := calls.foldl StoreCall.apply { maxEntries := 2, maxLogs := 100, isOpen := true }
    let entries := calls.foldl (listAfter 2 100) []
    s.AnswersAs entries ∧ (0 : Int) ≤ 2 ∧
      entries.map (fun e => (e.id, e.tasks.map HistoryTask.taskName)) =
        [("c", []), ("a", [some "z"])] := by
  intro task entry calls s entries
  exact ⟨store_answers_as_list 2 100 (by decide) calls, by decide, by decide +kernel⟩

end BuildGraph
