import BuildGraph.Proofs.Order.HardEdges
import BuildGraph.Order.Sequence

/-!
# Taking ready ids first

`takeReady` takes an id when all ids before it are taken. `Taking` is what holds after every step:
the ids that are taken or ready are exactly those whose predecessors are all taken, and none is
taken before a predecessor. Hence the ids that are ever taken are the accessible ones, and
`sequence` puts all others behind them.
-/

open Relation

namespace BuildGraph.Order

/-- Each id of the list comes after all its predecessors. -/
def Ordered (before : String → List String) (l : List String) : Prop :=
  ∀ front x rest, l = front ++ x :: rest → ∀ p ∈ before x, p ∈ front

variable {next before : String → List String} {ids ready done : List String} {id p : String}

theorem ordered_nil : Ordered before [] := by
  intro front x rest h
  simp at h

/-- An id may be put at the end when all its predecessors are there. -/
theorem Ordered.concat (h : Ordered before done) (hid : ∀ p ∈ before id, p ∈ done) :
    Ordered before (done ++ [id]) := by
  intro front x rest heq p hp
  rcases List.eq_nil_or_concat rest with rfl | ⟨rest, last, rfl⟩
  · obtain ⟨rfl, hx⟩ := List.append_inj' heq rfl
    obtain rfl : id = x := by simpa using hx
    exact hid p hp
  · have heq' : done ++ [id] = (front ++ x :: rest) ++ [last] := by simpa using heq
    exact h front x rest (List.append_inj' heq' rfl).1 p hp

/-- A part at the front of an ordered list is ordered. -/
theorem Ordered.of_append {l₁ l₂ : List String} (h : Ordered before (l₁ ++ l₂)) :
    Ordered before l₁ := by
  rintro front x rest rfl
  exact h front x (rest ++ l₂) (by simp)

/-- In an ordered list a predecessor stands before the id. -/
theorem Ordered.sublist (h : Ordered before done) (hid : id ∈ done) (hp : p ∈ before id) :
    [p, id].Sublist done := by
  obtain ⟨front, rest, rfl⟩ := List.append_of_mem hid
  have hfront : [p].Sublist front := List.singleton_sublist.2 (h front id rest rfl p hp)
  exact hfront.append (List.singleton_sublist.2 List.mem_cons_self)

/-- All ids of an ordered list are accessible. -/
theorem Ordered.acc (h : Ordered before done) : ∀ x ∈ done, Acc (fun p x => p ∈ before x) x := by
  induction done using List.reverseRecOn with
  | nil => simp
  | append_singleton done id ih =>
      have hdone := ih h.of_append
      intro x hx
      rcases List.mem_append.1 hx with hx | hx
      · exact hdone x hx
      · obtain rfl := List.mem_singleton.1 hx
        exact .intro _ fun p hp => hdone p (h done x [] rfl p hp)

/-- The state of taking: the taken and the ready ids are those whose predecessors are taken, each
once, and the taken ones are in order. -/
structure Taking (before : String → List String) (ids ready done : List String) : Prop where
  nodup : (done ++ ready).Nodup
  mem_iff : ∀ id, id ∈ done ++ ready ↔ id ∈ ids ∧ ∀ p ∈ before id, p ∈ done
  ordered : Ordered before done

/-- At the start the ids without predecessors are ready. -/
theorem taking_start (before : String → List String) (hnodup : ids.Nodup) :
    Taking before ids (ids.filter fun id => (before id).isEmpty) [] := by
  refine ⟨by simpa using hnodup.filter _, fun id => ?_, ordered_nil⟩
  simp [List.eq_nil_iff_forall_not_mem]

/-- The ids that become ready when an id is taken. -/
def freed (next before : String → List String) (done : List String) (id : String) : List String :=
  (next id).filter fun n => (before n).all fun p => decide (p ∈ done)

theorem mem_freed {n : String} :
    n ∈ freed next before done id ↔ n ∈ next id ∧ ∀ p ∈ before n, p ∈ done := by
  simp [freed]

/-- Taking the first ready id keeps the state of taking. -/
theorem Taking.step (hdual : ∀ a b, b ∈ next a ↔ a ∈ before b)
    (hnext : ∀ a b, b ∈ next a → b ∈ ids) (hnodup : ∀ a, (next a).Nodup)
    (h : Taking before ids (id :: ready) done) :
    Taking before ids (ready ++ freed next before (done ++ [id]) id) (done ++ [id]) := by
  have hall : (done ++ [id]) ++ (ready ++ freed next before (done ++ [id]) id) =
      (done ++ id :: ready) ++ freed next before (done ++ [id]) id := by simp
  have hid : id ∉ done := fun hmem =>
    (List.nodup_append.1 h.nodup).2.2 id hmem id List.mem_cons_self rfl
  have hbefore := (h.mem_iff id).1 (by simp)
  refine ⟨?_, fun n => ?_, h.ordered.concat hbefore.2⟩ <;> rw [hall]
  · refine List.nodup_append.2 ⟨h.nodup, (hnodup id).filter _, ?_⟩
    -- an id that is freed now was not ready before, since the id just taken was missing
    rintro n hn _ hn' rfl
    have hpred := (hdual id n).1 (mem_freed.1 hn').1
    exact hid (((h.mem_iff n).1 hn).2 id hpred)
  · rw [List.mem_append, mem_freed, h.mem_iff]
    constructor
    · rintro (⟨hn, hp⟩ | ⟨hn, hp⟩)
      · exact ⟨hn, fun p hpn => List.mem_append_left _ (hp p hpn)⟩
      · exact ⟨hnext id n hn, hp⟩
    · rintro ⟨hn, hp⟩
      by_cases hidn : id ∈ before n
      · exact .inr ⟨(hdual id n).2 hidn, hp⟩
      · refine .inl ⟨hn, fun p hpn => ?_⟩
        rcases List.mem_append.1 (hp p hpn) with h | h
        · exact h
        · exact absurd (List.mem_singleton.1 h ▸ hpn) hidn

/-- With enough tries nothing ready is left over. -/
theorem take_ready_spec (hdual : ∀ a b, b ∈ next a ↔ a ∈ before b)
    (hnext : ∀ a b, b ∈ next a → b ∈ ids) (hnodup : ∀ a, (next a).Nodup) {count : Nat}
    (h : Taking before ids ready done) (hcount : ids.length ≤ count + done.length) :
    Taking before ids [] (takeReady next before count ready done) := by
  induction count generalizing ready done with
  | zero =>
      have hsub : done ++ ready ⊆ ids := fun x hx => ((h.mem_iff x).1 hx).1
      have hlength := (List.subperm_of_subset h.nodup hsub).length_le
      obtain rfl : ready = [] := by
        rw [List.length_append] at hlength
        exact List.length_eq_zero_iff.1 (by omega)
      exact h
  | succ count ih =>
      cases ready with
      | nil => exact h
      | cons id ready =>
          exact ih (h.step hdual hnext hnodup)
            (by simp only [List.length_append, List.length_singleton]; omega)

/-- When nothing is ready any more, the taken ids are the accessible ones. -/
theorem Taking.mem_iff_acc (hbefore : ∀ a b, a ∈ before b → a ∈ ids)
    (h : Taking before ids [] done) (id : String) :
    id ∈ done ↔ id ∈ ids ∧ Acc (fun p x => p ∈ before x) id := by
  constructor
  · intro hid
    exact ⟨((h.mem_iff id).1 (by simpa using hid)).1, h.ordered.acc id hid⟩
  · rintro ⟨hid, hacc⟩
    induction hacc with
    | intro x _ ih =>
        have htaken := (h.mem_iff x).2 ⟨hid, fun p hp => ih p hp (hbefore p x hp)⟩
        simpa using htaken

/-- A sequence is the accessible ids in order, and behind them the others as they were given. -/
theorem sequence_spec (hdual : ∀ a b, b ∈ next a ↔ a ∈ before b)
    (hids : ∀ a b, b ∈ next a → a ∈ ids ∧ b ∈ ids) (hnext : ∀ a, (next a).Nodup)
    (hnodup : ids.Nodup) :
    ∃ first rest, sequence next before ids = first ++ rest ∧ first.Nodup ∧ Ordered before first ∧
      (∀ id, id ∈ first ↔ id ∈ ids ∧ Acc (fun p x => p ∈ before x) id) ∧
      rest.Sublist ids ∧ ∀ id, id ∈ rest ↔ id ∈ ids ∧ ¬ Acc (fun p x => p ∈ before x) id := by
  have hcount : ids.length ≤ ids.length + ([] : List String).length := by simp
  have htaken := take_ready_spec hdual (fun a b h => (hids a b h).2) hnext
    (taking_start before hnodup) hcount
  have hmem := htaken.mem_iff_acc fun a b h => (hids a b ((hdual a b).2 h)).1
  refine ⟨_, _, rfl, by simpa using htaken.nodup, htaken.ordered, hmem, List.filter_sublist,
    fun id => ?_⟩
  rw [List.mem_filter, decide_eq_true_eq, hmem]
  exact and_congr_right fun hid => not_congr (and_iff_right hid)

end BuildGraph.Order
