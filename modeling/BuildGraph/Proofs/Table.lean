import Mathlib
import BuildGraph.Table

/-!
# Tables of lists

A table that is put together from a list of entries has entries of the list alone, no more than the
list has. It has them all, in their order, exactly when no key occurs twice in the list; so a table
is the table of its own entries.

Main statements: `Table.entries_ofList`, `Table.ofList_entries` and `Table.nodup_of_length_le`.
-/

namespace BuildGraph

variable {κ β : Type} [DecidableEq κ] {key : κ} {value : β} {entries : List (κ × β)}

/-- A key that is not there yet goes to the end. -/
theorem setEntry_of_not_mem (h : key ∉ entries.map Prod.fst) :
    setEntry key value entries = entries ++ [(key, value)] := by
  induction entries with
  | nil => rfl
  | cons entry rest ih =>
      rw [List.map_cons, List.mem_cons, not_or] at h
      rw [setEntry, if_neg fun heq => h.1 heq.symm, ih h.2, List.cons_append]

/-- Setting a key brings one entry and keeps others. -/
theorem setEntry_subset : setEntry key value entries ⊆ (key, value) :: entries := by
  induction entries with
  | nil => exact List.Subset.refl _
  | cons entry rest ih =>
      rw [setEntry]
      split
      · exact List.cons_subset_cons _ (List.subset_cons_self _ _)
      · refine List.cons_subset.2 ⟨by simp, fun x hx => ?_⟩
        rcases List.mem_cons.1 (ih hx) with rfl | hx
        · exact List.mem_cons_self
        · exact List.mem_cons_of_mem _ (List.mem_cons_of_mem _ hx)

namespace Table

variable {t : Table κ β}

/-- A key has its value in a table made of entries that agree on it. -/
theorem get?_ofList (hmem : ∃ entry ∈ entries, entry.1 = key)
    (hvalue : ∀ entry ∈ entries, entry.1 = key → entry.2 = value) :
    (ofList entries).get? key = some value := by
  induction entries using List.reverseRecOn with
  | nil => simp at hmem
  | append_singleton entries last ih =>
      rw [ofList, List.foldl_append, List.foldl_cons, List.foldl_nil, get?_set]
      split
      · next hlast => rw [hvalue last (by simp) hlast]
      · next hlast =>
          obtain ⟨entry, hentry, hkey⟩ := hmem
          rcases List.mem_append.1 hentry with hentry | hentry
          · exact ih ⟨entry, hentry, hkey⟩ fun entry hentry =>
              hvalue entry (List.mem_append_left _ hentry)
          · exact absurd (List.mem_singleton.1 hentry ▸ hkey) hlast

/-- Entries with new keys go to the end of a table, in their order. -/
theorem entries_foldl_set (h : (t.entries.map Prod.fst ++ entries.map Prod.fst).Nodup) :
    (entries.foldl (fun t entry => t.set entry.1 entry.2) t).entries = t.entries ++ entries := by
  induction entries generalizing t with
  | nil => simp
  | cons entry entries ih =>
      have hnew : entry.1 ∉ t.entries.map Prod.fst := fun hmem =>
        (List.nodup_append.1 h).2.2 _ hmem entry.1 (by simp) rfl
      have hset : (t.set entry.1 entry.2).entries = t.entries ++ [entry] :=
        setEntry_of_not_mem hnew
      have hnodup :
          ((t.set entry.1 entry.2).entries.map Prod.fst ++ entries.map Prod.fst).Nodup := by
        rw [hset]
        simpa using h
      rw [List.foldl_cons, ih hnodup, hset, List.append_assoc, List.singleton_append]

/-- Entries with different keys are the entries of their table. -/
theorem entries_ofList (h : (entries.map Prod.fst).Nodup) : (ofList entries).entries = entries :=
  entries_foldl_set (t := empty) h

/-- A table is the table of its entries. -/
theorem ofList_entries (t : Table κ β) : ofList t.entries = t := by
  obtain ⟨entries, hnodup⟩ := t
  exact (Table.mk.injEq ..).mpr (entries_ofList hnodup)

/-- The table of a list has no other entries than the list. -/
theorem entries_ofList_subset (entries : List (κ × β)) : (ofList entries).entries ⊆ entries := by
  induction entries using List.reverseRecOn with
  | nil => exact List.Subset.refl _
  | append_singleton entries last ih =>
      rw [ofList, List.foldl_append, List.foldl_cons, List.foldl_nil]
      refine List.Subset.trans setEntry_subset
        (List.cons_subset.2 ⟨by simp, fun entry hentry => ?_⟩)
      exact List.mem_append_left _ (ih hentry)

/-- The entries of a table of a list are some of those of the list. -/
theorem entries_ofList_subperm (entries : List (κ × β)) :
    (ofList entries).entries.Subperm entries :=
  List.subperm_of_subset (List.Nodup.of_map _ (ofList entries).nodup)
    (entries_ofList_subset entries)

/-- No key occurs twice in a list of which the table has as many entries. -/
theorem nodup_of_length_le (h : entries.length ≤ (ofList entries).entries.length) :
    (entries.map Prod.fst).Nodup :=
  (((entries_ofList_subperm entries).perm_of_length_le h).map Prod.fst).nodup_iff.1
    (ofList entries).nodup

end Table

end BuildGraph
