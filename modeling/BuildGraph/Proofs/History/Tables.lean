import Mathlib
import BuildGraph.History.Store

/-!
# What the tables of a store hold

The tables of a store have no order, and an entry lies in two of them. `Holds` says of a list of
rows with their tasks that it is what the tables hold, newest first. The queries read that list
(`Holds.entries`, `Holds.row?`), and each change of the tables is a change of the list
(`Holds.put`, `Holds.cut`, `Holds.remove`, `Holds.relabel`).
-/

namespace BuildGraph

section Lists

variable {α : Type}

/-- Sorting finds the arrangement in which every item comes strictly before the next. -/
theorem mergeSort_eq_of_strict {le : α → α → Bool} (htrans : ∀ a b c, le a b → le b c → le a c)
    (htotal : ∀ a b, le a b || le b a) {l sorted : List α} (hperm : l.Perm sorted)
    (hstrict : sorted.Pairwise fun a b => le b a = false) : l.mergeSort le = sorted := by
  have hsorted : sorted.Pairwise fun a b => le a b = true :=
    hstrict.imp fun {a b} hnot => by simpa [hnot] using htotal a b
  have : Std.Symm fun a b => le a b = false ∨ le b a = false := ⟨fun _ _ => Or.symm⟩
  have hne : sorted.Pairwise fun a b => le a b = false ∨ le b a = false := hstrict.imp .inr
  have hperm' : (l.mergeSort le).Perm sorted := (l.mergeSort_perm le).trans hperm
  refine hperm'.eq_of_pairwise (fun a b ha hb hab hba => ?_)
    (List.pairwise_mergeSort htrans htotal l) hsorted
  by_contra hdiff
  rcases hne.forall (hperm'.subset ha) hb hdiff with hnot | hnot
  · simp [hnot] at hab
  · simp [hnot] at hba

/-- The item of a key is found in every arrangement of items with distinct keys. -/
theorem find?_eq_of_perm {key : α → String} {l l' : List α} (hperm : l.Perm l')
    (hkeys : (l'.map key).Nodup) (k : String) :
    (l.find? fun a => key a == k) = l'.find? fun a => key a == k := by
  have huniq : ∀ a ∈ l', ∀ b ∈ l', key a = key b → a = b := List.inj_on_of_nodup_map hkeys
  cases h : l.find? fun a => key a == k with
  | none =>
      refine (List.find?_eq_none.2 fun a ha => ?_).symm
      exact List.find?_eq_none.1 h a (hperm.mem_iff.2 ha)
  | some a =>
      cases h' : l'.find? fun a => key a == k with
      | none =>
          have hnot := List.find?_eq_none.1 h' a (hperm.mem_iff.1 (List.mem_of_find?_eq_some h))
          exact absurd (List.find?_some h) hnot
      | some b =>
          have ha : key a = k := by simpa using List.find?_some h
          have hb : key b = k := by simpa using List.find?_some h'
          rw [huniq a (hperm.mem_iff.1 (List.mem_of_find?_eq_some h)) b
            (List.mem_of_find?_eq_some h') (ha.trans hb.symm)]

/-- An item stands between others when keys are distinct. -/
theorem exists_split_of_mem {key : α → String} {l : List α} (hkeys : (l.map key).Nodup) {a : α}
    (ha : a ∈ l) :
    ∃ front back, l = front ++ a :: back ∧ ∀ b ∈ front ++ back, key b ≠ key a := by
  obtain ⟨front, back, rfl⟩ := List.append_of_mem ha
  refine ⟨front, back, rfl, fun b hb heq => ?_⟩
  have hnodup := (List.perm_middle.map key).nodup_iff.1 hkeys
  exact (List.nodup_cons.1 hnodup).1 (List.mem_map.2 ⟨b, hb, heq⟩)

/-- Among items with distinct keys, only one has the key of an item. -/
theorem filter_key_eq {key : α → String} {l : List α} (hkeys : (l.map key).Nodup) {a : α}
    (ha : a ∈ l) : (l.filter fun b => key b == key a) = [a] := by
  obtain ⟨front, back, rfl, hother⟩ := exists_split_of_mem hkeys ha
  have hnone : ((front ++ back).filter fun b => key b == key a) = [] :=
    List.filter_eq_nil_iff.2 fun b hb => by simpa using hother b hb
  rw [List.filter_append, List.append_eq_nil_iff] at hnone
  rw [List.filter_append, List.filter_cons_of_pos (by simp), hnone.1, hnone.2, List.nil_append]

/-- Among items with distinct keys, an item is found by its key. -/
theorem find?_key_eq {key : α → String} {l : List α} (hkeys : (l.map key).Nodup) {a : α}
    (ha : a ∈ l) : (l.find? fun b => key b == key a) = some a := by
  rw [← List.head?_filter, filter_key_eq hkeys ha, List.head?_cons]

end Lists

/-- A row with its tasks. -/
structure HeldEntry where
  row : EntryRow
  tasks : List HistoryTask

namespace HeldEntry

/-- The entry that is held. -/
def entry (h : HeldEntry) : HistoryEntry := h.row.entry h.tasks

/-- The rows of its tasks. -/
def taskRows (h : HeldEntry) : List TaskRow := TaskRow.ofTasks h.row.id h.tasks

/-- The same with another label, if it has an id. -/
def relabel (id : String) (label : Option String) (h : HeldEntry) : HeldEntry :=
  if h.row.id = id then { h with row := { h.row with label } } else h

variable (id : String) (label : Option String) (h : HeldEntry)

@[simp]
theorem relabel_row_id : (h.relabel id label).row.id = h.row.id := by
  rw [relabel]
  split <;> rfl

@[simp]
theorem relabel_row_sequence : (h.relabel id label).row.sequence = h.row.sequence := by
  rw [relabel]
  split <;> rfl

@[simp]
theorem relabel_task_rows : (h.relabel id label).taskRows = h.taskRows := by
  rw [relabel]
  split <;> rfl

end HeldEntry

namespace HistoryStore

/-- The tables hold rows with their tasks, newest first, and nothing else. -/
structure Holds (s : HistoryStore) (held : List HeldEntry) : Prop where
  rows : s.rows.Perm (held.map HeldEntry.row)
  taskRows : s.taskRows.Perm (held.flatMap HeldEntry.taskRows)
  newest : held.Pairwise fun a b => b.row.sequence < a.row.sequence
  ids : (held.map fun h => h.row.id).Nodup

variable {s : HistoryStore} {held : List HeldEntry}

section Queries

/-- Rows of tasks are arranged by their positions. -/
theorem ofTasks_strict (id : String) (tasks : List HistoryTask) :
    (TaskRow.ofTasks id tasks).Pairwise fun a b => decide (b.position ≤ a.position) = false := by
  rw [TaskRow.ofTasks, List.pairwise_iff_getElem]
  intro i j hi hj hij
  simpa using hij

theorem map_task_ofTasks (id : String) (tasks : List HistoryTask) :
    (TaskRow.ofTasks id tasks).map TaskRow.task = tasks := by
  apply List.ext_getElem <;> simp [TaskRow.ofTasks]

/-- The rows of tasks that belong to some of the entries. -/
theorem filter_taskRows (p : String → Bool) (held : List HeldEntry) :
    (held.flatMap HeldEntry.taskRows).filter (fun t => p t.entryId) =
      (held.filter fun h => p h.row.id).flatMap HeldEntry.taskRows := by
  have hown : ∀ h : HeldEntry, ∀ t ∈ h.taskRows, t.entryId = h.row.id := by
    intro h t ht
    obtain ⟨i, hi, rfl⟩ := List.mem_mapIdx.1 ht
    rfl
  induction held with
  | nil => rfl
  | cons h held ih =>
      rw [List.flatMap_cons, List.filter_append, ih]
      cases hp : p h.row.id with
      | true =>
          rw [List.filter_eq_self.2 fun t ht => by rw [hown h t ht, hp],
            List.filter_cons_of_pos (by exact hp), List.flatMap_cons]
      | false =>
          rw [List.filter_eq_nil_iff.2 fun t ht => by simp [hown h t ht, hp],
            List.filter_cons_of_neg (by simp [hp]), List.nil_append]

theorem Holds.newestRows (h : s.Holds held) : s.newestRows = held.map HeldEntry.row := by
  refine mergeSort_eq_of_strict (fun a b c => ?_) (fun a b => ?_) h.rows ?_
  · simp only [decide_eq_true_eq]
    omega
  · simp only [Bool.or_eq_true, decide_eq_true_eq]
    omega
  · exact List.pairwise_map.2 (h.newest.imp fun hlt => by simpa using hlt)

theorem Holds.tasksOf (h : s.Holds held) {x : HeldEntry} (hx : x ∈ held) :
    s.tasksOf x.row.id = x.tasks := by
  have hfilter : (s.taskRows.filter fun t => t.entryId == x.row.id).Perm x.taskRows := by
    have hperm := h.taskRows.filter fun t => t.entryId == x.row.id
    rwa [filter_taskRows fun id => id == x.row.id, filter_key_eq h.ids hx,
      List.flatMap_singleton] at hperm
  rw [HistoryStore.tasksOf, mergeSort_eq_of_strict (fun a b c => ?_) (fun a b => ?_) hfilter
    (ofTasks_strict _ _)]
  · exact map_task_ofTasks _ _
  · simp only [decide_eq_true_eq]
    omega
  · simp only [Bool.or_eq_true, decide_eq_true_eq]
    omega

theorem Holds.entryOf (h : s.Holds held) {x : HeldEntry} (hx : x ∈ held) :
    s.entryOf x.row = x.entry := by
  rw [HistoryStore.entryOf, h.tasksOf hx, HeldEntry.entry]

theorem Holds.entries (h : s.Holds held) : s.entries = held.map HeldEntry.entry := by
  rw [HistoryStore.entries, h.newestRows, List.map_map]
  exact List.map_congr_left fun x hx => h.entryOf hx

theorem Holds.row? (h : s.Holds held) (id : String) :
    s.row? id = (held.find? fun x => x.row.id == id).map HeldEntry.row := by
  have hkeys : ((held.map HeldEntry.row).map EntryRow.id).Nodup := by
    rw [List.map_map]
    exact h.ids
  rw [HistoryStore.row?, find?_eq_of_perm h.rows hkeys id, List.find?_map]
  rfl

end Queries

section Changes

/-- Rows taken from both tables are taken from the list. -/
theorem Holds.keep (h : s.Holds held) (p : String → Bool) :
    Holds { s with
      rows := s.rows.filter fun r => p r.id
      taskRows := s.taskRows.filter fun t => p t.entryId } (held.filter fun x => p x.row.id) where
  rows := by
    have hperm := h.rows.filter fun r => p r.id
    rwa [List.filter_map] at hperm
  taskRows := by
    have hperm := h.taskRows.filter fun t => p t.entryId
    rwa [filter_taskRows p] at hperm
  newest := h.newest.filter _
  ids := h.ids.sublist (List.filter_sublist.map _)

theorem Holds.remove (h : s.Holds held) (id : String) :
    (s.remove id).Holds (held.filter fun x => x.row.id != id) :=
  h.keep fun other => other != id

theorem Holds.emptied (s : HistoryStore) : s.emptied.Holds [] :=
  ⟨.nil, .nil, .nil, .nil⟩

theorem Holds.remove_all (h : s.Holds held) (ids : List String) :
    (ids.foldl HistoryStore.remove s).Holds (held.filter fun x => !ids.contains x.row.id) := by
  induction ids generalizing s held with
  | nil => simpa using h
  | cons id ids ih =>
      have hnext := ih (h.remove id)
      rw [List.filter_filter] at hnext
      refine (List.filter_congr fun x _ => ?_) ▸ hnext
      rw [List.contains_cons, Bool.not_or, Bool.and_comm]
      rfl

/-- The oldest are cut off. -/
theorem Holds.cut (h : s.Holds held) (count : Nat) : (s.cut count).Holds (held.take count) := by
  have hids : (held.take count ++ held.drop count).map (fun x => x.row.id) |>.Nodup := by
    rw [List.take_append_drop]
    exact h.ids
  rw [List.map_append] at hids
  have hstale : s.cut count =
      ((held.drop count).map fun x => x.row.id).foldl HistoryStore.remove s := by
    rw [HistoryStore.cut, h.newestRows, ← List.map_drop, List.foldl_map, List.foldl_map]
  have hkept : (held.filter fun x => !((held.drop count).map fun x => x.row.id).contains x.row.id) =
      held.take count := by
    conv_lhs => rw [← List.take_append_drop count held, List.filter_append,
      List.take_append_drop count held]
    rw [List.filter_eq_self.2, List.filter_eq_nil_iff.2, List.append_nil]
    · intro x hx
      simp only [Bool.not_eq_true', Bool.not_eq_false, List.contains_iff_mem]
      exact List.mem_map.2 ⟨x, hx, rfl⟩
    · intro x hx
      simp only [Bool.not_eq_true', ← Bool.not_eq_true, List.contains_iff_mem]
      exact List.disjoint_of_nodup_append hids (List.mem_map.2 ⟨x, hx, rfl⟩)
  rw [hstale, ← hkept]
  exact h.remove_all _

/-- The number of the next entry is greater than those of all rows. -/
theorem Holds.sequence_lt (h : s.Holds held) {x : HeldEntry} (hx : x ∈ held) :
    x.row.sequence < s.nextSequence := by
  have hrow : x.row ∈ s.rows := h.rows.mem_iff.2 (List.mem_map_of_mem hx)
  exact Nat.lt_succ_of_le (List.le_max?_getD_of_mem (List.mem_map_of_mem hrow))

/-- A row that is there is written over in its place. -/
theorem writeRow_of_found {row old : EntryRow} (hfound : s.row? row.id = some old) :
    (s.writeRow row).rows = s.rows.map fun r => if r.id = row.id then row else r := by
  rw [writeRow, hfound]

/-- Whether or not a row of the id was there, the row that was written is there once. -/
theorem perm_writeRow (hids : (s.rows.map EntryRow.id).Nodup) (row : EntryRow) :
    (s.writeRow row).rows.Perm (row :: s.rows.filter fun r => r.id != row.id) := by
  cases hfound : s.row? row.id with
  | none =>
      have hnone : ∀ r ∈ s.rows, (r.id != row.id) = true := fun r hr => by
        simpa using List.find?_eq_none.1 hfound r hr
      rw [writeRow, hfound, List.filter_eq_self.2 hnone]
      exact List.perm_append_singleton _ _
  | some old =>
      have hold : old.id = row.id := by simpa using List.find?_some hfound
      obtain ⟨front, back, hsplit, hother⟩ :=
        exists_split_of_mem hids (List.mem_of_find?_eq_some hfound)
      rw [hold] at hother
      obtain ⟨hfront, hback⟩ := List.forall_mem_append.1 hother
      have hmap : ∀ side : List EntryRow, (∀ r ∈ side, r.id ≠ row.id) →
          (side.map fun r => if r.id = row.id then row else r) = side := fun side hside =>
        (List.map_congr_left fun r hr => if_neg (hside r hr)).trans (List.map_id _)
      have hkept : (s.rows.filter fun r => r.id != row.id) = front ++ back := by
        rw [hsplit, List.filter_append, List.filter_cons_of_neg (by simp [hold]),
          ← List.filter_append]
        exact List.filter_eq_self.2 fun r hr => by simpa using hother r hr
      rw [writeRow_of_found hfound, hkept, hsplit, List.map_append, List.map_cons, if_pos hold,
        hmap front hfront, hmap back hback]
      exact List.perm_middle

/-- An entry that is put in comes before all others, and one of its id is gone with its tasks. -/
theorem Holds.put (h : s.Holds held) (e : HistoryEntry) :
    (s.put e).Holds
      (⟨e.row s.nextSequence s.maxLogs, e.tasks⟩ :: held.filter fun x => x.row.id != e.id) where
  rows := by
    have hids : (s.rows.map EntryRow.id).Nodup := by
      rw [(h.rows.map _).nodup_iff, List.map_map]
      exact h.ids
    have hkept := h.rows.filter fun r => r.id != e.id
    rw [List.filter_map] at hkept
    exact (perm_writeRow hids (e.row s.nextSequence s.maxLogs)).trans (hkept.cons _)
  taskRows := by
    have hkept := h.taskRows.filter fun t => t.entryId != e.id
    rw [filter_taskRows fun id => id != e.id] at hkept
    exact (hkept.append_right _).trans List.perm_append_comm
  newest := by
    refine List.pairwise_cons.2 ⟨fun x hx => ?_, h.newest.filter _⟩
    exact h.sequence_lt (List.mem_of_mem_filter hx)
  ids := by
    refine List.nodup_cons.2 ⟨fun hmem => ?_, h.ids.sublist (List.filter_sublist.map _)⟩
    obtain ⟨x, hx, hid⟩ := List.mem_map.1 hmem
    have hne := (List.mem_filter.1 hx).2
    simp [hid, HistoryEntry.row] at hne

/-- A row that is written over with another label. -/
theorem Holds.relabel (h : s.Holds held) {x : HeldEntry} (hx : x ∈ held) (label : Option String) :
    (s.writeRow { x.row with label }).Holds (held.map (HeldEntry.relabel x.row.id label)) where
  rows := by
    let labelled : EntryRow := { x.row with label }
    have hfound : s.row? labelled.id = some x.row := by
      rw [h.row?, find?_key_eq h.ids hx, Option.map_some]
    rw [writeRow_of_found hfound, List.map_map]
    refine (h.rows.map _).trans (.of_eq ?_)
    rw [List.map_map]
    refine List.map_congr_left fun y hy => ?_
    by_cases hid : y.row.id = x.row.id
    · -- ids are distinct, so the entry of the id is the one whose row is written
      obtain rfl : y = x := List.inj_on_of_nodup_map h.ids hy hx hid
      simp [HeldEntry.relabel, labelled]
    · simp [HeldEntry.relabel, labelled, hid]
  taskRows := by
    rw [List.flatMap_map]
    simp only [HeldEntry.relabel_task_rows]
    exact h.taskRows
  newest := List.pairwise_map.2 (by simpa using h.newest)
  ids := by
    rw [List.map_map]
    simpa [Function.comp_def] using h.ids

end Changes

end HistoryStore

end BuildGraph
