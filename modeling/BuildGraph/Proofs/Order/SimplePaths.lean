import BuildGraph.Proofs.Order.CycleSearch
import BuildGraph.Proofs.Order.Dependencies

/-!
# All simple paths

`allPaths` walks from the source in depth, never into an id of the path that leads there, and ends
a path where it meets the target. `all_paths_spec` says that it lists the simple paths from the
source to the target, each once, and that the bound on the length of its paths is never felt.
-/

open Relation

namespace BuildGraph.Order

/-- A path along edges of any relation that meets no id twice. -/
structure IsSimplePath (edges : List Edge) (source target : String) (path : List String) :
    Prop where
  starts : path.head? = some source
  ends : path.getLast? = some target
  nodup : path.Nodup
  walk : path.IsChain (Leads edges false)

/-- What may follow on a path: a walk along successors from the id to the target that meets no id
twice and none of the path. -/
structure Continues (next : String → List String) (target : String) (path : List String)
    (id : String) (rest : List String) : Prop where
  starts : rest.head? = some id
  ends : rest.getLast? = some target
  nodup : rest.Nodup
  avoids : ∀ x ∈ rest, x ∉ path
  walk : rest.IsChain fun a b => b ∈ next a

variable {next : String → List String} {target id : String} {path rest pool : List String}
  {depth : Nat}

/-- At the target a path ends. -/
theorem continues_target (hid : target ∉ path) :
    Continues next target path target rest ↔ rest = [target] := by
  constructor
  · intro h
    obtain ⟨tail, rfl⟩ := List.head?_eq_some_iff.1 h.starts
    cases tail with
    | nil => rfl
    | cons n tail =>
        have hlast := List.mem_of_getLast? (List.getLast?_cons_cons.symm.trans h.ends)
        exact absurd hlast (List.nodup_cons.1 h.nodup).1
  · rintro rfl
    exact ⟨rfl, rfl, List.nodup_singleton _, by simpa using hid, List.isChain_singleton _⟩

/-- Before the target a path goes on with a successor that it has not met. -/
theorem continues_iff (hid : id ∉ path) (hne : id ≠ target) :
    Continues next target path id rest ↔
      ∃ n ∈ next id, n ∉ id :: path ∧
        ∃ tail, rest = id :: tail ∧ Continues next target (id :: path) n tail := by
  constructor
  · intro h
    obtain ⟨tail, rfl⟩ := List.head?_eq_some_iff.1 h.starts
    obtain ⟨hmeet, hnodup⟩ := List.nodup_cons.1 h.nodup
    have havoids : ∀ x ∈ tail, x ∉ id :: path := fun x hx => List.not_mem_cons_of_ne_of_not_mem
      (fun heq => hmeet (heq ▸ hx)) (h.avoids x (List.mem_cons_of_mem id hx))
    cases tail with
    | nil => exact absurd (Option.some.inj h.ends) hne
    | cons n tail =>
        obtain ⟨hn, hwalk⟩ := List.isChain_cons_cons.1 h.walk
        exact ⟨n, hn, havoids n List.mem_cons_self, n :: tail, rfl, rfl,
          List.getLast?_cons_cons.symm.trans h.ends, hnodup, havoids, hwalk⟩
  · rintro ⟨n, hn, hfresh, tail, rfl, h⟩
    obtain ⟨tail, rfl⟩ := List.head?_eq_some_iff.1 h.starts
    refine ⟨rfl, List.getLast?_cons_cons.trans h.ends, ?_, ?_,
      List.isChain_cons_cons.2 ⟨hn, h.walk⟩⟩
    · exact List.nodup_cons.2 ⟨fun hmem => h.avoids id hmem List.mem_cons_self, h.nodup⟩
    · exact List.forall_mem_cons.2
        ⟨hid, fun x hx hmem => h.avoids x hx (List.mem_cons_of_mem id hmem)⟩

/-- The extensions of a path are the path with each continuation that the bound allows. -/
theorem mem_extend_path (hid : id ∉ path) {p : List String} :
    p ∈ extendPath next target depth path id ↔
      ∃ rest, p = path.reverse ++ rest ∧ Continues next target path id rest ∧
        rest.length ≤ depth := by
  induction depth generalizing path id with
  | zero =>
      simp only [extendPath, List.not_mem_nil, false_iff]
      rintro ⟨rest, -, h, hlength⟩
      obtain rfl := List.length_eq_zero_iff.1 (Nat.le_zero.1 hlength)
      cases h.starts
  | succ depth ih =>
      rw [extendPath]
      split
      · next heq =>
          subst heq
          simp [continues_target hid]
      · next hne =>
          simp only [List.mem_flatMap, List.mem_filter, decide_eq_true_eq, continues_iff hid hne]
          constructor
          · rintro ⟨n, ⟨hn, hfresh⟩, hp⟩
            obtain ⟨rest, rfl, h, hlength⟩ := (ih hfresh).1 hp
            exact ⟨id :: rest, by simp, ⟨n, hn, hfresh, rest, rfl, h⟩, Nat.succ_le_succ hlength⟩
          · rintro ⟨_, rfl, ⟨n, hn, hfresh, tail, rfl, h⟩, hlength⟩
            exact ⟨n, ⟨hn, hfresh⟩,
              (ih hfresh).2 ⟨tail, by simp, h, Nat.le_of_succ_le_succ hlength⟩⟩

/-- No path is listed twice, as the extensions by different successors part at these. -/
theorem extend_path_nodup (hnext : ∀ a, (next a).Nodup) (hid : id ∉ path) :
    (extendPath next target depth path id).Nodup := by
  induction depth generalizing path id with
  | zero => exact List.nodup_nil
  | succ depth ih =>
      rw [extendPath]
      split
      · exact List.nodup_singleton _
      · refine List.nodup_flatMap.2 ⟨fun n hn => ih (by simpa using (List.mem_filter.1 hn).2), ?_⟩
        refine ((hnext id).filter _).pairwise_of_forall_ne fun n hn m hm hne => ?_
        rw [Function.onFun, List.disjoint_left]
        intro p hpn hpm
        obtain ⟨r, rfl, hr, -⟩ := (mem_extend_path (by simpa using (List.mem_filter.1 hn).2)).1 hpn
        obtain ⟨s, heq, hs, -⟩ := (mem_extend_path (by simpa using (List.mem_filter.1 hm).2)).1 hpm
        obtain rfl := List.append_cancel_left heq
        exact hne (Option.some.inj (hr.starts.symm.trans hs.starts))

/-- A bound that exceeds the ids that are left to meet is not felt. -/
theorem extend_path_eq (hnext : ∀ a, ∀ b ∈ next a, b ∈ pool) (hnodup : (id :: path).Nodup)
    (hsub : id :: path ⊆ pool) (hdepth : pool.length ≤ depth + path.length) (extra : Nat) :
    extendPath next target (depth + extra) path id = extendPath next target depth path id := by
  induction depth generalizing path id with
  | zero =>
      have hlength := (List.subperm_of_subset hnodup hsub).length_le
      rw [List.length_cons] at hlength
      omega
  | succ depth ih =>
      rw [Nat.succ_add, extendPath, extendPath]
      congr 1
      refine List.flatMap_congr fun n hn => ?_
      obtain ⟨hn, hfresh⟩ := List.mem_filter.1 hn
      refine ih (List.nodup_cons.2 ⟨by simpa using hfresh, hnodup⟩)
        (List.cons_subset.2 ⟨hnext id n hn, hsub⟩) ?_
      rw [List.length_cons]
      omega

/-- The ids to which an edge leads from an id, each once. -/
def neighbours (edges : List Edge) (id : String) : List String :=
  firsts ((edges.filter fun e => e.source == id).map Edge.target)

theorem mem_neighbours {edges : List Edge} {a b : String} :
    b ∈ neighbours edges a ↔ Leads edges false a b := by
  simp [neighbours, Leads, and_assoc]

theorem all_paths_eq (edges : List Edge) (source target : String) :
    allPaths edges source target =
      extendPath (neighbours edges) target (edges.length + 1) [] source :=
  rfl

theorem continues_nil_iff {edges : List Edge} {source : String} :
    Continues (neighbours edges) target [] source path ↔ IsSimplePath edges source target path := by
  have hstep : (fun a b => b ∈ neighbours edges a) = Leads edges false := by
    funext a b
    exact propext mem_neighbours
  constructor
  · intro h
    exact ⟨h.starts, h.ends, h.nodup, hstep ▸ h.walk⟩
  · intro h
    exact ⟨h.starts, h.ends, h.nodup, fun _ _ => List.not_mem_nil, hstep ▸ h.walk⟩

/-- A simple path has at most one id more than there are edges: all but its last are sources. -/
theorem IsSimplePath.length_le {edges : List Edge} {source : String}
    (h : IsSimplePath edges source target path) : path.length ≤ edges.length + 1 := by
  have hsub : path ⊆ edges.map Edge.source ++ [target] := by
    intro x hx
    rw [← List.dropLast_append_getLast? target h.ends] at hx
    rcases List.mem_append.1 hx with hx | hx
    · obtain ⟨_, e, he, -, rfl, -⟩ := exists_next_of_mem_dropLast h.walk hx
      exact List.mem_append_left _ (List.mem_map_of_mem he)
    · exact List.mem_append_right _ hx
  simpa using (List.subperm_of_subset h.nodup hsub).length_le

/-- The enumerated paths are the simple paths from the source to the target along edges of any
relation, each once, however much further the walk may go. -/
theorem all_paths_spec (edges : List Edge) (source target : String) :
    (allPaths edges source target).Nodup ∧
    (∀ path, path ∈ allPaths edges source target ↔ IsSimplePath edges source target path) ∧
    ∀ extra, extendPath (neighbours edges) target (edges.length + 1 + extra) [] source =
      allPaths edges source target := by
  have hnone : source ∉ ([] : List String) := List.not_mem_nil
  refine ⟨?_, fun path => ?_, fun extra => ?_⟩
  · exact extend_path_nodup (fun a => nodup_firsts _) hnone
  · rw [all_paths_eq, mem_extend_path hnone]
    simp only [List.reverse_nil, List.nil_append, continues_nil_iff]
    constructor
    · rintro ⟨rest, rfl, h, -⟩
      exact h
    · intro h
      exact ⟨path, rfl, h, h.length_le⟩
  · have hpool : ∀ a, ∀ b ∈ neighbours edges a, b ∈ source :: edges.map Edge.target := by
      intro a b hb
      obtain ⟨e, he, -, -, rfl⟩ := mem_neighbours.1 hb
      exact List.mem_cons_of_mem _ (List.mem_map_of_mem he)
    rw [all_paths_eq]
    exact extend_path_eq hpool (List.nodup_singleton _) (by simp) (by simp) extra

end BuildGraph.Order
