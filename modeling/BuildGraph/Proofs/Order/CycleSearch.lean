import BuildGraph.Proofs.Order.HardEdges
import BuildGraph.Order.Cycle

/-!
# The search for cycles is sound and complete

What the depth-first search answers as a cycle is one: a closed walk along the successors that meets
no id twice before it closes. When the search answers none, every id it visited is accessible, so
there is no cycle at all. Together `find_cycle_eq_none_iff` says that the search finds nothing
exactly in acyclic graphs, and `find_cycle_spec` says of nodes and edges what is found and when.
-/

open Relation

namespace BuildGraph.Order

/-- A walk along successors that ends where it starts and meets no id twice in between. -/
structure IsCycle (next : String → List String) (cycle : List String) : Prop where
  two_le_length : 2 ≤ cycle.length
  closed : cycle.head? = cycle.getLast?
  nodup : cycle.dropLast.Nodup
  walk : cycle.IsChain fun a b => b ∈ next a

/-- All walks along successors from the id end. -/
def Ends (next : String → List String) (id : String) : Prop :=
  Acc (fun a b => a ∈ next b) id

variable {next : String → List String} {ids path visited : List String} {id : String}

/-- Where a path leads back to one of its ids, the part from that id on is a cycle. The path holds
the last id first. -/
theorem is_cycle_close_cycle {last : String} (hpath : (last :: path).IsChain fun a b => a ∈ next b)
    (hnodup : (last :: path).Nodup) (hmem : id ∈ last :: path) (hnext : id ∈ next last) :
    IsCycle next (closeCycle (last :: path) id) := by
  -- The cycle is the part of the path up to the id, walked backwards from the id to itself.
  let front := (last :: path).takeWhile fun p => decide (p ≠ id)
  have hsplit : front ++ id :: ((last :: path).dropWhile fun p => decide (p ≠ id)).tail =
      last :: path := by
    have hdrop : ((last :: path).dropWhile fun p => decide (p ≠ id)) ≠ [] := by
      rw [ne_eq, List.dropWhile_eq_nil_iff]
      exact fun hall => by simpa using hall id hmem
    have hhead := List.head_dropWhile_not (fun p => decide (p ≠ id)) hdrop
    have hid : ((last :: path).dropWhile fun p => decide (p ≠ id)).head hdrop = id := by
      simpa using hhead
    conv_rhs => rw [← List.takeWhile_append_dropWhile (p := fun p => decide (p ≠ id))
      (l := last :: path)]
    rw [← List.cons_head_tail hdrop, hid]
    rfl
  have hprefix : front ++ [id] <+: last :: path :=
    ⟨((last :: path).dropWhile fun p => decide (p ≠ id)).tail, by simpa using hsplit⟩
  have hcycle : closeCycle (last :: path) id = (id :: front.reverse) ++ [id] := rfl
  refine ⟨by simp [hcycle], by rw [hcycle, List.getLast?_concat]; rfl, ?_, ?_⟩
  · have hfront : (front ++ [id]).Nodup := hnodup.sublist hprefix.sublist
    have hperm : (id :: front.reverse).Perm (front ++ [id]) :=
      (List.reverse_perm front).cons id |>.trans (List.perm_append_singleton id front).symm
    rw [hcycle, List.dropLast_concat]
    exact hperm.nodup_iff.2 hfront
  · have hchain : (front ++ [id]).IsChain fun a b => a ∈ next b := hpath.prefix hprefix
    have hwalk : (id :: (front ++ [id])).IsChain fun a b => a ∈ next b := by
      refine List.isChain_cons.2 ⟨?_, hchain⟩
      intro first hfirst
      -- the part begins like the path, so the step to the id closes it
      have hlast : (front ++ [id]).head? = some last := by
        obtain ⟨rest, hrest⟩ := hprefix
        have hhead := congrArg List.head? hrest
        rw [List.head?_append] at hhead
        cases hf : (front ++ [id]).head? with
        | none => simp at hf
        | some x => simpa [hf] using hhead
      obtain rfl : last = first := Option.some.inj (hlast.symm.trans hfirst)
      exact hnext
    have hrev : closeCycle (last :: path) id = (id :: (front ++ [id])).reverse := by
      simp [hcycle]
    rw [hrev, List.isChain_reverse]
    exact hwalk

/-- What holds of an answer: one property if it is an error, another if it is a value. -/
def Answers {ε β : Type} (fails : ε → Prop) (holds : β → Prop) : Except ε β → Prop
  | .error e => fails e
  | .ok b => holds b

theorem Answers.imp {ε β : Type} {fails : ε → Prop} {holds holds' : β → Prop} {answer : Except ε β}
    (h : Answers fails holds answer) (himp : ∀ b, holds b → holds' b) :
    Answers fails holds' answer := by
  cases answer with
  | error e => exact h
  | ok b => exact himp b h

/-- A fold whose steps fail properly or keep an invariant does so itself, and what each step brings
about for its element holds of all elements. -/
theorem answers_fold {ε α β : Type} (fails : ε → Prop) (invariant : β → Prop) (brought : α → Prop)
    (step : β → α → Except ε β) (l : List α)
    (hstep : ∀ a ∈ l, ∀ b, invariant b →
      Answers fails (fun b' => invariant b' ∧ brought a) (step b a))
    {start : β} (hstart : invariant start) :
    Answers fails (fun b => invariant b ∧ ∀ a ∈ l, brought a) (l.foldlM step start) := by
  induction l generalizing start with
  | nil => exact ⟨hstart, by simp⟩
  | cons a l ih =>
      have hfirst := hstep a List.mem_cons_self start hstart
      rw [List.foldlM_cons]
      revert hfirst
      cases step start a with
      | error e => exact fun h => h
      | ok b =>
          rintro ⟨hb, ha⟩
          have hrest := ih (fun x hx => hstep x (List.mem_cons_of_mem _ hx)) hb
          simp only [bind, Except.bind]
          revert hrest
          cases List.foldlM step b l with
          | error e => exact fun h => h
          | ok _ => exact fun h => ⟨h.1, List.forall_mem_cons.2 ⟨ha, h.2⟩⟩

/-- The visited ids after a visit: those from before are among them, and all lie on the path or
end. -/
def Explored (next : String → List String) (path visited visited' : List String) : Prop :=
  visited ⊆ visited' ∧ ∀ m ∈ visited', m ∈ path ∨ Ends next m

/-- A visit with enough depth answers a cycle, or all that it visited ends. -/
theorem visit_answers (hnext : ∀ a, ∀ b ∈ next a, b ∈ ids) (depth : Nat)
    (hpath : (id :: path).IsChain fun a b => a ∈ next b) (hnodup : (id :: path).Nodup)
    (hsub : id :: path ⊆ ids) (hdepth : ids.length ≤ depth + path.length)
    (hvisited : ∀ m ∈ visited, m ∈ path ∨ Ends next m) :
    Answers (IsCycle next) (fun visited' => Explored next path visited visited' ∧ id ∈ visited')
      (visit next depth path visited id) := by
  induction depth generalizing path visited id with
  | zero =>
      have hlength := (List.subperm_of_subset hnodup hsub).length_le
      simp only [List.length_cons] at hlength
      omega
  | succ depth ih =>
      have hstart : Explored next (id :: path) (id :: visited) (id :: visited) := by
        refine ⟨List.Subset.refl _, fun m hm => ?_⟩
        rcases List.mem_cons.1 hm with rfl | hm
        · exact .inl List.mem_cons_self
        · exact (hvisited m hm).imp_left (List.mem_cons_of_mem _)
      -- The successors are taken in turn; each of them closes a cycle, or it ends.
      have hall := answers_fold (IsCycle next) (Explored next (id :: path) (id :: visited))
        (Ends next)
        (fun visited n =>
          if n ∈ id :: path then Except.error (closeCycle (id :: path) n)
          else if n ∈ visited then .ok visited
          else visit next depth (id :: path) visited n)
        (next id) (fun n hn seen hseen => ?_) hstart
      · rw [visit]
        refine hall.imp ?_
        rintro visited' ⟨⟨hgrow, hall⟩, hends⟩
        refine ⟨⟨fun m hm => hgrow (List.mem_cons_of_mem _ hm), fun m hm => ?_⟩,
          hgrow List.mem_cons_self⟩
        rcases hall m hm with hm | hm
        · rcases List.mem_cons.1 hm with rfl | hm
          · exact .inr (.intro _ hends)
          · exact .inl hm
        · exact .inr hm
      · by_cases hback : n ∈ id :: path
        · simp only [hback, if_true]
          exact is_cycle_close_cycle hpath hnodup hback hn
        by_cases hknown : n ∈ seen
        · simp only [hback, hknown, if_false, if_true]
          exact ⟨hseen, (hseen.2 n hknown).resolve_left hback⟩
        · simp only [hback, hknown, if_false]
          have hvisit : Answers (IsCycle next)
              (fun visited' => Explored next (id :: path) seen visited' ∧ n ∈ visited')
              (visit next depth (id :: path) seen n) := ih
            (List.isChain_cons_cons.2 ⟨hn, hpath⟩) (List.nodup_cons.2 ⟨hback, hnodup⟩)
            (List.cons_subset.2 ⟨hnext id n hn, hsub⟩)
            (by simp only [List.length_cons]; omega) hseen.2
          refine hvisit.imp ?_
          rintro visited' ⟨⟨hgrow, hall⟩, hmem⟩
          exact ⟨⟨List.Subset.trans hseen.1 hgrow, hall⟩, (hall n hmem).resolve_left hback⟩

/-- A search answers a cycle, or all the ids it started from end. -/
theorem cycle_from_answers (hnext : ∀ a, ∀ b ∈ next a, b ∈ ids) :
    (∀ cycle, cycleFrom next ids = some cycle → IsCycle next cycle) ∧
      (cycleFrom next ids = none → ∀ id ∈ ids, Ends next id) := by
  have hall := answers_fold (IsCycle next) (fun visited => ∀ m ∈ visited, Ends next m) (Ends next)
    (fun visited id =>
      if id ∈ visited then Except.ok visited else visit next ids.length [] visited id)
    ids (fun id hid visited hvisited => ?_) (List.forall_mem_nil _)
  · unfold cycleFrom
    split
    · next cycle heq =>
        rw [heq] at hall
        exact ⟨fun _ he => Option.some.inj he ▸ hall, by simp⟩
    · next heq =>
        rw [heq] at hall
        exact ⟨by simp, fun _ => hall.2⟩
  · by_cases hknown : id ∈ visited
    · simp only [hknown, if_true]
      exact ⟨hvisited, hvisited id hknown⟩
    · simp only [hknown, if_false]
      have hvisit : Answers (IsCycle next)
          (fun visited' => Explored next [] visited visited' ∧ id ∈ visited')
          (visit next ids.length [] visited id) := visit_answers hnext ids.length
        (List.isChain_singleton id) (List.nodup_singleton id)
        (List.cons_subset.2 ⟨hid, List.nil_subset _⟩) (by simp)
        fun m hm => .inr (hvisited m hm)
      refine hvisit.imp ?_
      rintro visited' ⟨⟨-, hall⟩, hmem⟩
      have hends : ∀ m ∈ visited', Ends next m := fun m hm =>
        (hall m hm).resolve_left List.not_mem_nil
      exact ⟨hends, hends id hmem⟩

/-- A cycle leads from its first id back to it. -/
theorem IsCycle.trans_gen {cycle : List String} (h : IsCycle next cycle) :
    ∃ id, TransGen (fun a b => b ∈ next a) id id := by
  obtain ⟨a, b, rest, rfl⟩ : ∃ a b rest, cycle = a :: b :: rest := by
    have hlength := h.two_le_length
    cases cycle with
    | nil => simp at hlength
    | cons a tail =>
        cases tail with
        | nil => simp at hlength
        | cons b rest => exact ⟨a, b, rest, rfl⟩
  obtain ⟨hab, hrest⟩ := List.isChain_cons_cons.1 h.walk
  have hlast : (b :: rest).getLast (by simp) = a := by
    have hclosed := h.closed
    rw [List.getLast?_cons_cons, List.getLast?_eq_some_getLast (by simp)] at hclosed
    exact (Option.some.inj hclosed).symm
  have hwalk := List.relationReflTransGen_of_exists_isChain_cons rest hrest hlast
  exact ⟨a, .head' hab hwalk⟩

/-- The search for cycles finds nothing exactly in acyclic graphs. -/
theorem find_cycle_eq_none_iff {nodes : List Node} {edges : List Edge} {disabledToo : Bool} :
    findCycle nodes edges disabledToo = none ↔
      Acyclic edges (consideredIds nodes disabledToo) := by
  let ids := consideredIds nodes disabledToo
  obtain ⟨hsome, hnone⟩ := cycle_from_answers
    fun a b (hb : b ∈ successors edges ids a) => (mem_successors.1 hb).2.2
  constructor
  · intro h id hid
    have hends := hnone h id (mem_of_trans_gen hid).1
    -- the search walks along the edges, and predecessors against them
    have hback : TransGen (fun a b => a ∈ successors edges ids b) id id :=
      transGen_swap.1 (by simpa [Function.swap] using hid)
    exact not_trans_gen_of_acc hends hback
  · intro h
    cases hfound : findCycle nodes edges disabledToo with
    | none => rfl
    | some cycle =>
        obtain ⟨id, hid⟩ := (hsome cycle hfound).trans_gen
        exact absurd (by simpa using hid) (h id)

section Found

variable {nodes : List Node} {edges : List Edge} {disabledToo : Bool} {cycle : List String}

/-- A node of the id is looked at: an enabled one or, on demand, any. -/
def Considered (nodes : List Node) (disabledToo : Bool) (id : String) : Prop :=
  ∃ n ∈ nodes, (disabledToo = true ∨ n.enabled = true) ∧ n.id = id

/-- A `dependsOn` edge joins two nodes that are looked at. -/
def Joins (nodes : List Node) (edges : List Edge) (disabledToo : Bool) (a b : String) : Prop :=
  ⟨a, b, .dependsOn⟩ ∈ edges ∧ Considered nodes disabledToo a ∧ Considered nodes disabledToo b

/-- A closed walk along `dependsOn` edges through distinct nodes that are looked at. -/
structure IsDependencyCycle (nodes : List Node) (edges : List Edge) (disabledToo : Bool)
    (cycle : List String) : Prop where
  two_le_length : 2 ≤ cycle.length
  closed : cycle.head? = cycle.getLast?
  distinct : cycle.dropLast.Nodup
  considered : ∀ id ∈ cycle.dropLast, Considered nodes disabledToo id
  walk : cycle.IsChain fun a b => ⟨a, b, .dependsOn⟩ ∈ edges

theorem hard_edge_eq_joins : HardEdge edges (consideredIds nodes disabledToo) =
    Joins nodes edges disabledToo := by
  funext a b
  simp only [HardEdge, Joins, Considered, mem_considered_ids]

/-- Every id of a walk but the last one is followed by another. -/
theorem exists_next_of_mem_dropLast {r : String → String → Prop} {walk : List String}
    (h : walk.IsChain r) (hid : id ∈ walk.dropLast) : ∃ next, r id next := by
  induction walk with
  | nil => cases hid
  | cons a walk ih =>
      cases walk with
      | nil => cases hid
      | cons b walk =>
          obtain ⟨hab, hwalk⟩ := List.isChain_cons_cons.1 h
          rcases List.mem_cons.1 hid with rfl | hid
          · exact ⟨b, hab⟩
          · exact ih hwalk hid

theorem IsCycle.is_dependency_cycle
    (h : IsCycle (successors edges (consideredIds nodes disabledToo)) cycle) :
    IsDependencyCycle nodes edges disabledToo cycle where
  two_le_length := h.two_le_length
  closed := h.closed
  distinct := h.nodup
  considered := fun id hid => by
    obtain ⟨next, hnext⟩ := exists_next_of_mem_dropLast h.walk hid
    exact mem_considered_ids.1 (mem_successors.1 hnext).2.1
  walk := h.walk.imp fun _ _ hnext => (mem_successors.1 hnext).1

/-- The search finds nothing exactly when the `dependsOn` edges between the nodes that are looked at
form no cycle, and what it finds is such a cycle. -/
theorem find_cycle_spec (nodes : List Node) (edges : List Edge) (disabledToo : Bool) :
    (findCycle nodes edges disabledToo = none ↔
      ∀ id, ¬ TransGen (Joins nodes edges disabledToo) id id) ∧
    ∀ cycle, findCycle nodes edges disabledToo = some cycle →
      IsDependencyCycle nodes edges disabledToo cycle := by
  constructor
  · rw [find_cycle_eq_none_iff, Acyclic, hard_edge_eq_joins]
  · intro cycle hfound
    have hanswers := cycle_from_answers
      fun a b (hb : b ∈ successors edges (consideredIds nodes disabledToo) a) =>
        (mem_successors.1 hb).2.2
    exact (hanswers.1 cycle hfound).is_dependency_cycle

/-- A node that is switched off closes a cycle only on demand, and the way into it is left out. -/
theorem find_cycle_spec_switched_off :
    let nodes : List Node := [⟨"in", "in", .custom, none, none, true, none, none, none⟩,
      ⟨"a", "a", .custom, none, none, true, none, none, none⟩,
      ⟨"b", "b", .custom, none, none, false, none, none, none⟩]
    let edges : List Edge := [⟨"in", "a", .dependsOn⟩, ⟨"a", "b", .dependsOn⟩,
      ⟨"a", "b", .dependsOn⟩, ⟨"b", "a", .dependsOn⟩]
    IsDependencyCycle nodes edges true ["a", "b", "a"] ∧
      ∀ id, ¬ TransGen (Joins nodes edges false) id id := by
  intro nodes edges
  exact ⟨(find_cycle_spec nodes edges true).2 _ (by decide),
    (find_cycle_spec nodes edges false).1.1 (by decide)⟩

end Found

end BuildGraph.Order
