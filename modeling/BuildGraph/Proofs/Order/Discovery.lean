import BuildGraph.Proofs.Order.HardEdges
import BuildGraph.Order.Sequence

/-!
# What a discovery finds

`discover` follows a successor function from some starting ids until nothing new is found. Given
enough tries it finds each id once, and finds exactly what can be reached. `mem_closure` states this
for the tasks that targets require.
-/

open Relation

namespace BuildGraph.Order

variable {next : String → List String} {pool found taken waiting : List String} {id : String}

/-- The successors of an id that are not found yet, each once. -/
def newlyFound (next : String → List String) (found : List String) (id : String) : List String :=
  firsts ((next id).filter fun n => decide (n ∉ found))

theorem mem_newly_found {n : String} : n ∈ newlyFound next found id ↔ n ∈ next id ∧ n ∉ found := by
  rw [newlyFound, mem_firsts, List.mem_filter, decide_eq_true_eq]

/-- The state of a discovery: the ids found so far are distinct members of a pool, those that wait
are the last of them, and the successors of all others are found. -/
structure Discovering (next : String → List String) (pool taken waiting : List String) :
    Prop where
  nodup : (taken ++ waiting).Nodup
  subset : taken ++ waiting ⊆ pool
  closed : ∀ a ∈ taken, ∀ b ∈ next a, b ∈ taken ++ waiting

/-- Taking an id from the queue and adding its new successors keeps the state of a discovery. -/
theorem Discovering.step (hnext : ∀ a, ∀ b ∈ next a, b ∈ pool)
    (h : Discovering next pool taken (id :: waiting)) :
    Discovering next pool (taken ++ [id])
      (waiting ++ newlyFound next (taken ++ id :: waiting) id) := by
  have hall : (taken ++ [id]) ++ (waiting ++ newlyFound next (taken ++ id :: waiting) id) =
      (taken ++ id :: waiting) ++ newlyFound next (taken ++ id :: waiting) id := by simp
  refine ⟨?_, ?_, ?_⟩ <;> rw [hall]
  · exact List.nodup_append.2 ⟨h.nodup, nodup_firsts _,
      fun a ha b hb e => (mem_newly_found.1 hb).2 (e ▸ ha)⟩
  · exact List.append_subset.2 ⟨h.subset, fun n hn => hnext id n (mem_newly_found.1 hn).1⟩
  · intro a ha b hb
    rcases List.mem_append.1 ha with ha | ha
    · exact List.mem_append_left _ (h.closed a ha b hb)
    · rw [List.mem_singleton.1 ha] at hb
      by_cases hknown : b ∈ taken ++ id :: waiting
      · exact List.mem_append_left _ hknown
      · exact List.mem_append_right _ (mem_newly_found.2 ⟨hb, hknown⟩)

/-- A discovery with enough tries ends with distinct ids that are closed under successors, and finds
nothing that could not be reached. -/
theorem discover_spec (hnext : ∀ a, ∀ b ∈ next a, b ∈ pool) {count : Nat}
    (h : Discovering next pool taken waiting) (hcount : pool.length ≤ count + taken.length) :
    Discovering next pool (discover next count waiting (taken ++ waiting)) [] ∧
      taken ++ waiting ⊆ discover next count waiting (taken ++ waiting) ∧
      ∀ b ∈ discover next count waiting (taken ++ waiting),
        ∃ a ∈ taken ++ waiting, ReflTransGen (fun a b => b ∈ next a) a b := by
  induction count generalizing taken waiting with
  | zero =>
      -- no id is taken twice, so when the count is used up nothing can be waiting
      have hlength := (List.subperm_of_subset h.nodup h.subset).length_le
      obtain rfl : waiting = [] := by
        rw [List.length_append] at hlength
        exact List.length_eq_zero_iff.1 (by omega)
      refine ⟨?_, List.Subset.refl _, fun b hb => ⟨b, hb, .refl⟩⟩
      simpa [discover] using h
  | succ count ih =>
      cases waiting with
      | nil =>
          refine ⟨?_, List.Subset.refl _, fun b hb => ⟨b, hb, .refl⟩⟩
          simpa [discover] using h
      | cons id waiting =>
          obtain ⟨hclosed, hgrow, hreach⟩ := ih (h.step hnext)
            (by simp only [List.length_append, List.length_singleton]; omega)
          have hall : (taken ++ [id]) ++
              (waiting ++ newlyFound next (taken ++ id :: waiting) id) =
              (taken ++ id :: waiting) ++ newlyFound next (taken ++ id :: waiting) id := by simp
          rw [hall] at hclosed hgrow hreach
          refine ⟨hclosed, fun a ha => hgrow (List.mem_append_left _ ha), fun b hb => ?_⟩
          obtain ⟨a, ha, hab⟩ := hreach b hb
          rcases List.mem_append.1 ha with ha | ha
          · exact ⟨a, ha, hab⟩
          · exact ⟨id, by simp, .head (mem_newly_found.1 ha).1 hab⟩

/-- A discovery from distinct members of the pool finds what can be reached from them. -/
theorem mem_discover (hnext : ∀ a, ∀ b ∈ next a, b ∈ pool) {start : List String}
    (hnodup : start.Nodup) (hsub : start ⊆ pool) {count : Nat} (hcount : pool.length ≤ count) :
    id ∈ discover next count start start ↔
      ∃ a ∈ start, ReflTransGen (fun a b => b ∈ next a) a id := by
  have hstart : Discovering next pool [] start := ⟨hnodup, hsub, by simp⟩
  obtain ⟨hclosed, hgrow, hreach⟩ := discover_spec hnext hstart (by simpa using hcount)
  refine ⟨hreach id, ?_⟩
  rintro ⟨a, ha, hab⟩
  clear hreach
  induction hab with
  | refl => exact hgrow ha
  | tail _ hstep ih => simpa using hclosed.closed _ ih _ hstep

/-- The closure of targets holds the considered ids from which a considered target can be
reached. -/
theorem mem_closure {edges : List Edge} {ids targets : List String} :
    id ∈ closure edges ids targets ↔
      ∃ t ∈ targets, t ∈ ids ∧ ReflTransGen (HardEdge edges ids) id t := by
  have hpool : ∀ a, ∀ b ∈ predecessors edges ids a, b ∈ ids :=
    fun a b hb => (mem_predecessors.1 hb).2.1
  rw [closure, mem_discover hpool (nodup_firsts _)
    (fun t ht => (by simpa using mem_firsts.1 ht : t ∈ targets ∧ t ∈ ids).2) le_rfl]
  have hswap : ∀ t, ReflTransGen (fun a b => HardEdge edges ids b a) t id ↔
      ReflTransGen (HardEdge edges ids) id t := fun t => reflTransGen_swap
  simp only [mem_predecessors, hswap, mem_firsts, List.mem_filter, decide_eq_true_eq, and_assoc]

end BuildGraph.Order
