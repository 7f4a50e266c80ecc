import BuildGraph.Order.Walk
import BuildGraph.Proofs.Order.Discovery

/-!
# What lies upstream and downstream

`upstream` and `downstream` walk along the edges in the two directions, and `requiredClosure` walks
back from its targets through enabled nodes. Each finds exactly what the edges lead to, each id
once, whether or not the edges form cycles. Hence the first two are dual, and the closure of targets
is what lies upstream of them. `dependency_queries_spec` states all of this.
-/

open Relation

namespace BuildGraph.Order

/-- An edge that is followed leads from the first id to the second. -/
def Leads (edges : List Edge) (hardOnly : Bool) (a b : String) : Prop :=
  ∃ e ∈ edges, (hardOnly = true → e.relation = .dependsOn) ∧ e.source = a ∧ e.target = b

variable {edges : List Edge} {hardOnly : Bool} {a b : String}

/-- The followed edges are all of them or, on demand, the `dependsOn` ones. -/
theorem mem_followed {e : Edge} :
    e ∈ followed edges hardOnly ↔ e ∈ edges ∧ (hardOnly = true → e.relation = .dependsOn) := by
  rw [followed, List.mem_filter, Bool.or_eq_true, isHard_iff]
  cases hardOnly <;> simp

theorem exists_followed_iff :
    (∃ e ∈ followed edges hardOnly, e.source = a ∧ e.target = b) ↔ Leads edges hardOnly a b := by
  simp only [mem_followed, Leads, and_assoc]

section Discovery

variable {next : String → List String}

/-- A discovery adds what it finds behind what was found before. -/
theorem discover_prefix (next : String → List String) (count : Nat)
    (waiting found : List String) : found <+: discover next count waiting found := by
  fun_induction discover next count waiting found with
  | case1 | case2 => exact List.prefix_refl _
  | case3 count id waiting found fresh ih => exact (List.prefix_append _ _).trans ih

/-- A discovery lists nothing twice. -/
theorem nodup_discover {pool start : List String} {count : Nat}
    (hnext : ∀ x, ∀ y ∈ next x, y ∈ pool) (hnodup : start.Nodup) (hsub : start ⊆ pool)
    (hcount : pool.length ≤ count) : (discover next count start start).Nodup := by
  have hstart : Discovering next pool [] start := ⟨hnodup, hsub, by simp⟩
  obtain ⟨hdone, -, -⟩ := discover_spec hnext hstart (by simpa using hcount)
  simpa using hdone.nodup

/-- Behind its start, a discovery from one id lists once each what can be reached from there and is
not the id itself. -/
theorem discover_behind_start {pool : List String} {count : Nat}
    (hnext : ∀ x, ∀ y ∈ next x, y ∈ a :: pool) (hcount : pool.length + 1 ≤ count) :
    ((discover next count [a] [a]).drop 1).Nodup ∧
      ∀ b, b ∈ (discover next count [a] [a]).drop 1 ↔
        b ≠ a ∧ TransGen (fun x y => y ∈ next x) a b := by
  have hstart : [a] ⊆ a :: pool := by simp
  have hmem : ∀ b, b ∈ discover next count [a] [a] ↔
      ∃ x ∈ [a], ReflTransGen (fun x y => y ∈ next x) x b :=
    fun _ => mem_discover hnext (List.nodup_singleton a) hstart hcount
  have hnodup := nodup_discover hnext (List.nodup_singleton a) hstart hcount
  obtain ⟨rest, hrest⟩ := discover_prefix next count [a] [a]
  rw [← hrest, List.singleton_append] at hnodup hmem ⊢
  obtain ⟨ha, hnodup⟩ := List.nodup_cons.1 hnodup
  refine ⟨hnodup, fun b => ⟨fun hb => ?_, fun ⟨hne, hab⟩ => ?_⟩⟩
  · have hne : b ≠ a := fun heq => ha (heq ▸ hb)
    obtain ⟨x, hx, hreach⟩ := (hmem b).1 (List.mem_cons_of_mem a hb)
    obtain rfl := List.mem_singleton.1 hx
    exact ⟨hne, (reflTransGen_iff_eq_or_transGen.1 hreach).resolve_left hne⟩
  · have hfound := (hmem b).2 ⟨a, List.mem_singleton_self a, hab.to_reflTransGen⟩
    exact (List.mem_cons.1 hfound).resolve_left hne

/-- A walk along edges from their near to their far ends lists what it leads to. -/
theorem walk_behind_start (es : List Edge) (near far : Edge → String) (a : String) :
    let found :=
      discover (fun x => (es.filter fun e => near e == x).map far) (es.length + 1) [a] [a]
    (found.drop 1).Nodup ∧ ∀ b, b ∈ found.drop 1 ↔
      b ≠ a ∧ TransGen (fun x y => ∃ e ∈ es, near e = x ∧ far e = y) a b := by
  have hsub : ∀ x, ∀ y ∈ (es.filter fun e => near e == x).map far, y ∈ a :: es.map far :=
    fun x y hy => List.mem_cons_of_mem a (List.map_subset _ (List.filter_subset_self _) hy)
  simpa [and_assoc] using discover_behind_start hsub (by rw [List.length_map])

end Discovery

/-- Upstream of an id lies, once each, every other id from which a path leads to it. -/
theorem upstream_exact (edges : List Edge) (a : String) (hardOnly : Bool) :
    (upstream edges a hardOnly).Nodup ∧
      ∀ b, b ∈ upstream edges a hardOnly ↔ b ≠ a ∧ TransGen (Leads edges hardOnly) b a := by
  obtain ⟨hnodup, hmem⟩ :=
    walk_behind_start (followed edges hardOnly) Edge.target Edge.source a
  refine ⟨hnodup, fun b => (hmem b).trans (and_congr_right fun _ => ?_)⟩
  -- the walk goes against the edges
  simp only [and_comm (b := Edge.source _ = _), exists_followed_iff]
  exact transGen_swap

/-- Downstream of an id lies, once each, every other id to which a path leads from it. -/
theorem downstream_exact (edges : List Edge) (a : String) (hardOnly : Bool) :
    (downstream edges a hardOnly).Nodup ∧
      ∀ b, b ∈ downstream edges a hardOnly ↔ b ≠ a ∧ TransGen (Leads edges hardOnly) a b := by
  obtain ⟨hnodup, hmem⟩ :=
    walk_behind_start (followed edges hardOnly) Edge.source Edge.target a
  refine ⟨hnodup, fun b => (hmem b).trans (and_congr_right fun _ => ?_)⟩
  simp only [exists_followed_iff]

section Closure

variable {nodes : List Node} {targets : List String}

theorem closure_nodup (edges : List Edge) (ids targets : List String) :
    (closure edges ids targets).Nodup := by
  have hpool : ∀ x, ∀ y ∈ predecessors edges ids x, y ∈ ids :=
    fun x y hy => (mem_predecessors.1 hy).2.1
  have hstart : firsts (targets.filter fun t => decide (t ∈ ids)) ⊆ ids := fun t ht => by
    simpa using (List.mem_filter.1 (mem_firsts.1 ht)).2
  exact nodup_discover hpool (nodup_firsts _) hstart le_rfl

/-- Where all nodes are enabled and no edge ends outside them, a hard edge between considered ids is
any `dependsOn` edge. -/
theorem hard_edge_eq_leads (henabled : ∀ n ∈ nodes, n.enabled = true)
    (hends : ∀ e ∈ edges, e.source ∈ nodes.map Node.id ∧ e.target ∈ nodes.map Node.id) :
    HardEdge edges (consideredIds nodes false) = Leads edges true := by
  have hmem : ∀ {id}, id ∈ nodes.map Node.id → id ∈ consideredIds nodes false := by
    intro id hid
    obtain ⟨n, hn, rfl⟩ := List.mem_map.1 hid
    exact mem_considered_ids.2 ⟨n, hn, .inr (henabled n hn), rfl⟩
  funext x y
  refine propext ⟨fun h => ⟨_, h.1, fun _ => rfl, rfl, rfl⟩, ?_⟩
  rintro ⟨⟨source, target, relation⟩, he, hhard, rfl, rfl⟩
  obtain rfl : relation = .dependsOn := hhard rfl
  exact ⟨he, hmem (hends _ he).1, hmem (hends _ he).2⟩

end Closure

/-- What lies upstream and downstream of an id are, once each, the other ids with a path of followed
edges to it and from it, so the two are dual. Where all nodes are enabled and no edge ends outside
them, targets require those of them that exist and what lies upstream of these. -/
theorem dependency_queries_spec (edges : List Edge) :
    (∀ hardOnly a, (upstream edges a hardOnly).Nodup ∧ (downstream edges a hardOnly).Nodup ∧
      ∀ b, (b ∈ upstream edges a hardOnly ↔ b ≠ a ∧ TransGen (Leads edges hardOnly) b a) ∧
        (b ∈ downstream edges a hardOnly ↔ b ≠ a ∧ TransGen (Leads edges hardOnly) a b) ∧
        (b ∈ upstream edges a hardOnly ↔ a ∈ downstream edges b hardOnly)) ∧
    ∀ nodes : List Node, (∀ n ∈ nodes, n.enabled = true) →
      (∀ e ∈ edges, e.source ∈ nodes.map Node.id ∧ e.target ∈ nodes.map Node.id) →
      ∀ targets, (requiredClosure nodes edges targets).Nodup ∧
        ∀ id, id ∈ requiredClosure nodes edges targets ↔
          ∃ t ∈ targets, t ∈ nodes.map Node.id ∧ (id = t ∨ id ∈ upstream edges t true) := by
  constructor
  · intro hardOnly a
    obtain ⟨hup, hmemUp⟩ := upstream_exact edges a hardOnly
    obtain ⟨hdown, hmemDown⟩ := downstream_exact edges a hardOnly
    refine ⟨hup, hdown, fun b => ⟨hmemUp b, hmemDown b, ?_⟩⟩
    rw [hmemUp, (downstream_exact edges b hardOnly).2, ne_comm]
  · intro nodes henabled hends targets
    refine ⟨closure_nodup _ _ _, fun id => ?_⟩
    rw [requiredClosure, mem_closure, hard_edge_eq_leads henabled hends]
    refine exists_congr fun t => and_congr_right fun _ => and_congr ?_ ?_
    · rw [mem_considered_ids, List.mem_map]
      exact exists_congr fun n => and_congr_right fun hn => and_iff_right (.inr (henabled n hn))
    · rw [reflTransGen_iff_eq_or_transGen, (upstream_exact edges t true).2]
      tauto

/-- Two tasks of a cycle are upstream of a third, which an advisory edge joins back to them and
which is required together with an id that no node has. -/
theorem dependency_queries_spec_cycle :
    let nodes : List Node := [⟨"a", "a", .custom, none, none, true, none, none, none⟩,
      ⟨"b", "b", .custom, none, none, true, none, none, none⟩,
      ⟨"c", "c", .custom, none, none, true, none, none, none⟩]
    let edges : List Edge := [⟨"a", "b", .dependsOn⟩, ⟨"b", "a", .dependsOn⟩,
      ⟨"b", "c", .dependsOn⟩, ⟨"c", "a", .mustRunAfter⟩]
    (∀ n ∈ nodes, n.enabled = true) ∧
      (∀ e ∈ edges, e.source ∈ nodes.map Node.id ∧ e.target ∈ nodes.map Node.id) ∧
      (requiredClosure nodes edges ["ghost", "c"]).Nodup ∧
      ∀ id, id ∈ requiredClosure nodes edges ["ghost", "c"] ↔
        ∃ t ∈ ["ghost", "c"], t ∈ nodes.map Node.id ∧ (id = t ∨ id ∈ upstream edges t true) := by
  intro nodes edges
  have henabled : ∀ n ∈ nodes, n.enabled = true := by decide
  have hends : ∀ e ∈ edges, e.source ∈ nodes.map Node.id ∧ e.target ∈ nodes.map Node.id := by
    decide
  exact ⟨henabled, hends, (dependency_queries_spec edges).2 nodes henabled hends ["ghost", "c"]⟩

end BuildGraph.Order
