import BuildGraph.Proofs.Order.Sequence

/-!
# Sequences of sequences

A sequence is in order already: taken again, also under other ids, its ids come out as they are.
What becomes ready together stands together in the sequence, so it comes out in the same order again
when the edges are sorted by the sequence.
-/

namespace BuildGraph.Order

section Sublists

variable {α : Type} [DecidableEq α] {l l₁ l₂ L : List α}

/-- A part of a list without repetitions is what the list has of its elements. -/
theorem eq_filter_of_sublist (h : l.Sublist L) (hnodup : L.Nodup) :
    l = L.filter fun x => decide (x ∈ l) := by
  induction h with
  | slnil => rfl
  | @cons l L a h ih =>
      obtain ⟨ha, hnodup⟩ := List.nodup_cons.1 hnodup
      rw [List.filter_cons_of_neg (by simpa using fun hmem => ha (h.subset hmem))]
      exact ih hnodup
  | @cons_cons l L a h ih =>
      obtain ⟨ha, hnodup⟩ := List.nodup_cons.1 hnodup
      have hcongr : L.filter (fun x => decide (x ∈ a :: l)) = L.filter fun x => decide (x ∈ l) := by
        refine List.filter_congr fun x hx => ?_
        have hne : x ≠ a := by
          rintro rfl
          exact ha hx
        simp [hne]
      rw [List.filter_cons_of_pos (by simp), hcongr, ← ih hnodup]

/-- Two parts of a list without repetitions are one if they have the same elements. -/
theorem sublist_ext (h₁ : l₁.Sublist L) (h₂ : l₂.Sublist L) (hnodup : L.Nodup)
    (h : ∀ x, x ∈ l₁ ↔ x ∈ l₂) : l₁ = l₂ := by
  rw [eq_filter_of_sublist h₁ hnodup, eq_filter_of_sublist h₂ hnodup]
  exact List.filter_congr fun x _ => by simp [h x]

end Sublists

variable {next before next' before' : String → List String} {ids ready done : List String}
  {rename : String → String}

/-- What is taken or ready stays in its order to the end. -/
theorem sublist_take_ready (hdual : ∀ a b, b ∈ next a ↔ a ∈ before b)
    (hnext : ∀ a b, b ∈ next a → b ∈ ids) (hnodup : ∀ a, (next a).Nodup) {count : Nat}
    (h : Taking before ids ready done) (hcount : ids.length ≤ count + done.length) :
    (done ++ ready).Sublist (takeReady next before count ready done) := by
  induction count generalizing ready done with
  | zero =>
      -- as many are done as there are ids, so none is ready
      have hsub : done ++ ready ⊆ ids := fun x hx => ((h.mem_iff x).1 hx).1
      have hlength := (List.subperm_of_subset h.nodup hsub).length_le
      obtain rfl : ready = [] := by
        rw [List.length_append] at hlength
        exact List.length_eq_zero_iff.1 (by omega)
      simp [takeReady]
  | succ count ih =>
      cases ready with
      | nil => simp [takeReady]
      | cons id ready =>
          have hstep := ih (h.step hdual hnext hnodup)
            (by simp only [List.length_append, List.length_singleton]; omega)
          refine List.Sublist.trans ?_ hstep
          rw [← List.append_assoc, List.append_assoc done, List.singleton_append]
          exact List.sublist_append_left _ _

/-- Dependencies under other ids, where what depends on an id comes in the order of a list. -/
structure Renames (rename : String → String) (next before next' before' : String → List String)
    (ids order : List String) : Prop where
  injective : ∀ a ∈ ids, ∀ b ∈ ids, rename a = rename b → a = b
  next_sublist : ∀ a ∈ ids, (next' (rename a)).Sublist (order.map rename)
  mem_next : ∀ a ∈ ids, ∀ b ∈ ids, rename b ∈ next' (rename a) ↔ b ∈ next a
  mem_before : ∀ b ∈ ids, ∀ q, q ∈ before' (rename b) ↔ ∃ a ∈ before b, q = rename a

/-- Under other ids the same ids become ready, in the same order. -/
theorem Renames.freed_eq {order : List String} {id : String}
    (h : Renames rename next before next' before' ids order) (taken : List String) (hid : id ∈ ids)
    (hbefore : ∀ a b, a ∈ before b → a ∈ ids) (hnext : ∀ a b, b ∈ next a → b ∈ ids)
    (horder : ∀ a ∈ order, a ∈ ids) (hnodup : order.Nodup) (htaken : ∀ a ∈ taken, a ∈ ids)
    (hfreed : (freed next before taken id).Sublist order) :
    freed next' before' (taken.map rename) (rename id) =
      (freed next before taken id).map rename := by
  have hall : ∀ b ∈ ids, (∀ q ∈ before' (rename b), q ∈ taken.map rename) ↔
      ∀ a ∈ before b, a ∈ taken := by
    intro b hb
    constructor
    · intro hq a ha
      obtain ⟨c, hc, heq⟩ := List.mem_map.1 (hq (rename a) ((h.mem_before b hb _).2 ⟨a, ha, rfl⟩))
      rwa [← h.injective c (htaken c hc) a (hbefore a b ha) heq]
    · intro ha q hq
      obtain ⟨a, hab, rfl⟩ := (h.mem_before b hb q).1 hq
      exact List.mem_map_of_mem (ha a hab)
  have hrename : (order.map rename).Nodup :=
    hnodup.map_on fun a ha b hb heq => h.injective a (horder a ha) b (horder b hb) heq
  -- both are parts of the order, so it is enough that they have the same ids
  refine sublist_ext (List.filter_sublist.trans (h.next_sublist id hid)) (hfreed.map rename) hrename
    fun x => ?_
  rw [mem_freed, List.mem_map]
  constructor
  · rintro ⟨hx, hq⟩
    obtain ⟨b, hb, rfl⟩ := List.mem_map.1 ((h.next_sublist id hid).subset hx)
    refine ⟨b, mem_freed.2 ⟨(h.mem_next id hid b (horder b hb)).1 hx, ?_⟩, rfl⟩
    exact (hall b (horder b hb)).1 hq
  · rintro ⟨b, hb, rfl⟩
    obtain ⟨hb, ha⟩ := mem_freed.1 hb
    have hmem := hnext id b hb
    exact ⟨(h.mem_next id hid b hmem).2 hb, (hall b hmem).2 ha⟩

/-- Under other ids the same ids wait for nothing. -/
theorem Renames.is_empty_before {order : List String} {b : String}
    (h : Renames rename next before next' before' ids order) (hb : b ∈ ids) :
    (before' (rename b)).isEmpty = (before b).isEmpty := by
  rw [Bool.eq_iff_iff, List.isEmpty_iff, List.isEmpty_iff, List.eq_nil_iff_forall_not_mem,
    List.eq_nil_iff_forall_not_mem]
  constructor
  · exact fun hnone a ha => hnone _ ((h.mem_before b hb _).2 ⟨a, ha, rfl⟩)
  · intro hnone q hq
    obtain ⟨a, ha, -⟩ := (h.mem_before b hb q).1 hq
    exact hnone a ha

/-- Under other ids the same ids are ready at first, in the same order. -/
theorem Renames.ready_eq {order : List String}
    (h : Renames rename next before next' before' ids order) (hnodup : (order.map rename).Nodup)
    (hmem : ∀ id, id ∈ order ↔ id ∈ ids)
    (hready : (ids.filter fun id => (before id).isEmpty).Sublist order) :
    (order.map rename).filter (fun id => (before' id).isEmpty) =
      (ids.filter fun id => (before id).isEmpty).map rename := by
  refine sublist_ext List.filter_sublist (hready.map rename) hnodup fun x => ?_
  rw [List.mem_filter, List.mem_map, List.mem_map]
  constructor
  · rintro ⟨⟨b, hb, rfl⟩, hx⟩
    have hids := (hmem b).1 hb
    exact ⟨b, List.mem_filter.2 ⟨hids, by rwa [h.is_empty_before hids] at hx⟩, rfl⟩
  · rintro ⟨b, hb, rfl⟩
    obtain ⟨hids, hx⟩ := List.mem_filter.1 hb
    exact ⟨⟨b, (hmem b).2 hids, rfl⟩, by rwa [h.is_empty_before hids]⟩

/-- Ids that are all taken in turn are a sequence. -/
theorem sequence_of_all_taken {order : List String}
    (horder : takeReady next before ids.length (ids.filter fun id => (before id).isEmpty) [] =
      order) (hall : ∀ id ∈ ids, id ∈ order) : sequence next before ids = order := by
  have hrest : ids.filter (fun id => decide (id ∉ order)) = [] :=
    List.filter_eq_nil_iff.2 fun id hid => by simpa using hall id hid
  simp only [sequence, horder, hrest, List.append_nil]

section Runs

variable (hdual : ∀ a b, b ∈ next a ↔ a ∈ before b) (hids : ∀ a b, b ∈ next a → a ∈ ids ∧ b ∈ ids)
  (hnext : ∀ a, (next a).Nodup)

include hdual hids hnext

/-- Taking under other ids goes on as it did. -/
theorem take_ready_rename {count : Nat} {order : List String} (h : Taking before ids ready done)
    (hcount : ids.length ≤ count + done.length)
    (horder : takeReady next before count ready done = order)
    (hrenames : Renames rename next before next' before' ids order) :
    takeReady next' before' count (ready.map rename) (done.map rename) = order.map rename := by
  have hbefore : ∀ a b, a ∈ before b → a ∈ ids := fun a b hab => (hids a b ((hdual a b).2 hab)).1
  have hafter : ∀ a b, b ∈ next a → b ∈ ids := fun a b hab => (hids a b hab).2
  have htaken := take_ready_spec hdual hafter hnext h hcount
  rw [horder] at htaken
  -- The order is what is taken in the end, and stays the same from step to step.
  induction count generalizing ready done with
  | zero =>
      subst horder
      rfl
  | succ count ih =>
      cases ready with
      | nil =>
          subst horder
          rfl
      | cons id ready =>
          have hstep := h.step hdual hafter hnext
          have hstepCount : ids.length ≤ count + (done ++ [id]).length := by
            simp only [List.length_append, List.length_singleton]
            omega
          have hrun : takeReady next before count
              (ready ++ freed next before (done ++ [id]) id) (done ++ [id]) = order := horder
          have hsublist := sublist_take_ready hdual hafter hnext hstep hstepCount
          rw [hrun] at hsublist
          have hdone : ∀ a ∈ done ++ [id], a ∈ ids := fun a ha =>
            ((hstep.mem_iff a).1 (List.mem_append_left _ ha)).1
          have hmem : ∀ a ∈ order, a ∈ ids := fun a ha =>
            ((htaken.mem_iff a).1 (by simpa using ha)).1
          have hlast : (freed next before (done ++ [id]) id).Sublist order :=
            ((List.sublist_append_right _ _).trans (List.sublist_append_right _ _)).trans hsublist
          have hfreed := hrenames.freed_eq (done ++ [id]) ((h.mem_iff id).1 (by simp)).1 hbefore
            hafter hmem (by simpa using htaken.nodup) hdone hlast
          have hrest := ih hstep hstepCount hrun
          rw [List.map_append, ← hfreed, List.map_append] at hrest
          exact hrest

/-- The sequence of a sequence under other ids is the sequence under the other ids, when no id waits
for itself. -/
theorem sequence_rename (hnodup : ids.Nodup)
    (hacc : ∀ id ∈ ids, Acc (fun p x => p ∈ before x) id)
    (hrenames : Renames rename next before next' before' ids (sequence next before ids)) :
    sequence next' before' ((sequence next before ids).map rename) =
      (sequence next before ids).map rename := by
  have hbefore : ∀ a b, a ∈ before b → a ∈ ids := fun a b hab => (hids a b ((hdual a b).2 hab)).1
  have hafter : ∀ a b, b ∈ next a → b ∈ ids := fun a b hab => (hids a b hab).2
  have hcount : ids.length ≤ ids.length + ([] : List String).length := by simp
  have hstart := taking_start before hnodup
  have htaken := take_ready_spec hdual hafter hnext hstart hcount
  have hsublist := sublist_take_ready hdual hafter hnext hstart hcount
  generalize horder : takeReady next before ids.length
    (ids.filter fun id => (before id).isEmpty) [] = order at htaken hsublist
  -- no id waits for itself, so every id is taken at some time
  have hmem : ∀ id, id ∈ order ↔ id ∈ ids := fun id => by
    rw [htaken.mem_iff_acc hbefore]
    exact ⟨fun h => h.1, fun h => ⟨h, hacc id h⟩⟩
  rw [sequence_of_all_taken horder fun id => (hmem id).2] at hrenames ⊢
  have horderNodup : order.Nodup := by simpa using htaken.nodup
  have hlength : order.length = ids.length :=
    ((List.perm_ext_iff_of_nodup horderNodup hnodup).2 hmem).length_eq
  have hrenameNodup : (order.map rename).Nodup := horderNodup.map_on fun a ha b hb heq =>
    hrenames.injective a ((hmem a).1 ha) b ((hmem b).1 hb) heq
  have hrun := take_ready_rename hdual hids hnext hstart hcount horder hrenames
  refine sequence_of_all_taken ?_ fun _ hid => hid
  rw [hrenames.ready_eq hrenameNodup hmem hsublist, List.length_map, hlength]
  exact hrun

end Runs

end BuildGraph.Order
