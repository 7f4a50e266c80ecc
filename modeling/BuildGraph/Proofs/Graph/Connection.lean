import BuildGraph.Proofs.Graph.WellFormed

/-!
# Which edges are accepted

A graph that changes lead to has no cycle of requirements, so a further hard edge closes one exactly
when its target already leads to its source. `add_edge_spec` says from this which edges are added
and why the others are refused.
-/

open Relation

namespace BuildGraph

section Ways

variable {nodes : List Node} {edges : List Edge} {source target a b : String}

/-- A way with a further edge is one without it, or it comes to the source of the edge and goes on
from its target. -/
theorem way_with_edge (h : TransGen (Order.Requires nodes
    (edges ++ [⟨source, target, .dependsOn⟩])) a b) :
    TransGen (Order.Requires nodes edges) a b ∨
      ReflTransGen (Order.Requires nodes edges) a source ∧
        ReflTransGen (Order.Requires nodes edges) target b := by
  have hstep : ∀ {x y}, Order.Requires nodes (edges ++ [⟨source, target, .dependsOn⟩]) x y →
      Order.Requires nodes edges x y ∨ x = source ∧ y = target := by
    rintro x y ⟨hedge, hx, hy⟩
    rcases List.mem_append.1 hedge with hedge | hedge
    · exact .inl ⟨hedge, hx, hy⟩
    · exact .inr (by simpa using hedge)
  induction h with
  | single h =>
      rcases hstep h with h | ⟨rfl, rfl⟩
      · exact .inl (.single h)
      · exact .inr ⟨.refl, .refl⟩
  | tail _ h ih =>
      rcases hstep h with h | ⟨rfl, rfl⟩
      · exact ih.imp (·.tail h) fun hway => ⟨hway.1, hway.2.tail h⟩
      · refine .inr ⟨?_, .refl⟩
        rcases ih with hway | hway
        · exact hway.to_reflTransGen
        · exact hway.1

/-- Where there is no cycle, a further edge between enabled nodes closes one exactly when its target
leads to its source. -/
theorem acyclic_with_edge_iff (h : ∀ id, ¬ TransGen (Order.Requires nodes edges) id id) :
    (∀ id, ¬ TransGen (Order.Requires nodes (edges ++ [⟨source, target, .dependsOn⟩])) id id) ↔
      ¬ (Order.Enabled nodes source ∧ Order.Enabled nodes target ∧
        ReflTransGen (Order.Requires nodes edges) target source) := by
  have hmore : Order.Requires nodes edges ≤
      Order.Requires nodes (edges ++ [⟨source, target, .dependsOn⟩]) :=
    fun _ _ hab => ⟨List.mem_append_left _ hab.1, hab.2⟩
  constructor
  · rintro hacyclic ⟨hsource, htarget, hway⟩
    have hnew : Order.Requires nodes (edges ++ [⟨source, target, .dependsOn⟩]) source target :=
      ⟨by simp, hsource, htarget⟩
    exact hacyclic source (.head' hnew (ReflTransGen.mono hmore _ _ hway))
  · intro hno id hcycle
    -- only enabled nodes are on a way, so the edge counts when the cycle goes through it
    rcases way_with_edge hcycle with hold | ⟨hto, hfrom⟩
    · exact h id hold
    · by_cases hends : Order.Enabled nodes source ∧ Order.Enabled nodes target
      · exact hno ⟨hends.1, hends.2, hfrom.trans hto⟩
      · refine h id (TransGen.mono (fun x y hxy => ?_) id id hcycle)
        obtain ⟨hedge, hx, hy⟩ := hxy
        rcases List.mem_append.1 hedge with hedge | hedge
        · exact ⟨hedge, hx, hy⟩
        · obtain ⟨rfl, rfl⟩ : x = source ∧ y = target := by simpa using hedge
          exact absurd ⟨hx, hy⟩ hends

end Ways

section Checks

variable {α ε : Type} {checks : List (Prop × ε)} {good a : α} {p : Prop} {e e' : ε}

/-- The first check that fails gives the error. -/
def FirstFails : List (Prop × ε) → ε → Prop
  | [], _ => False
  | (p, e) :: more, e' => ¬ p ∧ e' = e ∨ p ∧ FirstFails more e'

/-- The answer is the value when all checks hold, and otherwise the error of the first that
fails. -/
def Checked (checks : List (Prop × ε)) (good : α) : Except ε α → Prop
  | .ok a => (∀ check ∈ checks, check.1) ∧ a = good
  | .error e => FirstFails checks e

theorem checked_of_not (h : ¬ p) : Checked ((p, e) :: checks) good (.error e) :=
  .inl ⟨h, rfl⟩

theorem Checked.cons {answer : Except ε α} (hp : p) (h : Checked checks good answer) :
    Checked ((p, e) :: checks) good answer := by
  cases answer with
  | ok a => exact ⟨List.forall_mem_cons.2 ⟨hp, h.1⟩, h.2⟩
  | error e' => exact .inr ⟨hp, h⟩

theorem FirstFails.not_all (h : FirstFails checks e) : ¬ ∀ check ∈ checks, check.1 := by
  induction checks with
  | nil => exact h.elim
  | cons check checks ih =>
      rintro hall
      obtain ⟨hfirst, hmore⟩ := List.forall_mem_cons.1 hall
      rcases h with ⟨hnot, -⟩ | ⟨-, h⟩
      · exact hnot hfirst
      · exact ih h hmore

theorem FirstFails.unique (h : FirstFails checks e) (h' : FirstFails checks e') : e = e' := by
  induction checks with
  | nil => exact h.elim
  | cons check checks ih =>
      rcases h with ⟨hnot, rfl⟩ | ⟨hp, h⟩ <;> rcases h' with ⟨hnot', rfl⟩ | ⟨hp', h'⟩
      · rfl
      · exact absurd hp' hnot
      · exact absurd hp hnot'
      · exact ih h h'

/-- An answer to checks is a value exactly when all of them hold. -/
theorem Checked.eq_ok_iff {answer : Except ε α} (h : Checked checks good answer) :
    answer = .ok a ↔ (∀ check ∈ checks, check.1) ∧ a = good := by
  cases answer with
  | ok b =>
      obtain ⟨hall, rfl⟩ := h
      simpa [eq_comm] using fun _ => hall
  | error e => exact iff_of_false (by simp) fun hall => FirstFails.not_all h hall.1

/-- An answer to checks is an error exactly when it is that of the first check that fails. -/
theorem Checked.eq_error_iff {answer : Except ε α} (h : Checked checks good answer) :
    answer = .error e ↔ FirstFails checks e := by
  cases answer with
  | ok b => exact iff_of_false (by simp) fun hfails => hfails.not_all h.1
  | error e' =>
      rw [Except.error.injEq]
      refine ⟨fun heq => heq ▸ h, fun h' => h.unique h'⟩

end Checks

namespace Graph

variable {g : Graph} {source target : String} {relation : Relation}

/-- What has to hold for an edge to be added, in the order in which it is looked at, and how the
edge is refused when it does not. -/
def edgeChecks (g : Graph) (source target : String) (relation : Relation) :
    List (Prop × GraphError) :=
  [(∃ n ∈ g.nodes, n.id = source, .unknownNode source),
    (∃ n ∈ g.nodes, n.id = target, .unknownNode target),
    (source ≠ target, .selfLoop),
    (⟨source, target, relation⟩ ∉ g.edges, .duplicateEdge source target relation.name),
    (relation ≠ .dependsOn ∨
      (∃ n ∈ g.nodes, (n.id = source ∨ n.id = target) ∧ n.enabled = false) ∨
      ¬ TransGen (Order.Requires g.nodes g.edges) target source, .cycle .connection [])]

theorem get_node_checked (g : Graph) (id : String) :
    (∃ n ∈ g.nodes, n.id = id ∧ g.getNode id = .ok n) ∨
      (¬ ∃ n ∈ g.nodes, n.id = id) ∧ g.getNode id = .error (.unknownNode id) := by
  rw [getNode]
  cases hfound : g.node? id with
  | some n =>
      exact .inl ⟨n, List.mem_of_find?_eq_some hfound, by simpa using List.find?_some hfound, rfl⟩
  | none => exact .inr ⟨by simpa [node?] using hfound, rfl⟩

/-- Under distinct ids a node is enabled or it is not. -/
theorem not_enabled_iff (h : g.WellFormed) {id : String} (hid : ∃ n ∈ g.nodes, n.id = id) :
    ¬ Order.Enabled g.nodes id ↔ ∃ n ∈ g.nodes, n.id = id ∧ n.enabled = false := by
  obtain ⟨n, hn, rfl⟩ := hid
  have hone : ∀ m ∈ g.nodes, m.id = n.id → m = n := fun m hm heq =>
    List.inj_on_of_nodup_map h.nodes.ids hm hn heq
  constructor
  · intro hnot
    exact ⟨n, hn, rfl, Bool.eq_false_iff.2 fun henabled => hnot ⟨n, hn, henabled, rfl⟩⟩
  · rintro ⟨m, hm, heq, hdisabled⟩ ⟨m', hm', henabled, heq'⟩
    rw [hone m hm heq] at hdisabled
    rw [hone m' hm' heq', hdisabled] at henabled
    cases henabled

/-- A hard edge between distinct nodes closes a cycle unless one of them is disabled or its target
does not lead to its source. -/
theorem would_create_cycle_iff (h : g.WellFormed) (hsource : ∃ n ∈ g.nodes, n.id = source)
    (htarget : ∃ n ∈ g.nodes, n.id = target) (hne : source ≠ target) :
    Order.wouldCreateCycle g.nodes g.edges source target = false ↔
      (∃ n ∈ g.nodes, (n.id = source ∨ n.id = target) ∧ n.enabled = false) ∨
        ¬ TransGen (Order.Requires g.nodes g.edges) target source := by
  have hdisabled : (∃ n ∈ g.nodes, (n.id = source ∨ n.id = target) ∧ n.enabled = false) ↔
      ¬ Order.Enabled g.nodes source ∨ ¬ Order.Enabled g.nodes target := by
    rw [not_enabled_iff h hsource, not_enabled_iff h htarget]
    simp only [or_and_right, and_or_left, exists_or]
  have hway : ReflTransGen (Order.Requires g.nodes g.edges) target source ↔
      TransGen (Order.Requires g.nodes g.edges) target source := by
    rw [reflTransGen_iff_eq_or_transGen]
    exact or_iff_right hne
  have hsearch : Order.wouldCreateCycle g.nodes g.edges source target = false ↔
      Order.findCycle g.nodes (g.edges ++ [⟨source, target, .dependsOn⟩]) false = none := by
    simp [Order.wouldCreateCycle, hne]
  rw [hsearch, find_cycle_enabled_eq_none_iff, acyclic_with_edge_iff h.edges.acyclic, hway,
    hdisabled]
  tauto

/-- A further edge of any kind between distinct nodes closes no cycle exactly when it is advisory,
one of the nodes is disabled, or its target does not lead to its source. -/
theorem closes_no_cycle_iff (h : g.WellFormed) (hsource : ∃ n ∈ g.nodes, n.id = source)
    (htarget : ∃ n ∈ g.nodes, n.id = target) (hne : source ≠ target) (relation : Relation) :
    (relation.isHard && Order.wouldCreateCycle g.nodes g.edges source target) = false ↔
      relation ≠ .dependsOn ∨
        (∃ n ∈ g.nodes, (n.id = source ∨ n.id = target) ∧ n.enabled = false) ∨
          ¬ TransGen (Order.Requires g.nodes g.edges) target source := by
  rw [Bool.and_eq_false_iff, would_create_cycle_iff h hsource htarget hne, ← Bool.not_eq_true,
    Order.isHard_iff]

/-- The checks of an edge are made one after another. -/
theorem add_edge_checked (h : g.WellFormed) (source target : String) (relation : Relation) :
    Checked (edgeChecks g source target relation)
      { g with edges := g.edges ++ [⟨source, target, relation⟩] }
      (g.addEdge source target relation) := by
  rw [addEdge]
  rcases get_node_checked g source with ⟨n, hn, hsource, hget⟩ | ⟨hnone, hget⟩
  · rcases get_node_checked g target with ⟨m, hm, htarget, hget'⟩ | ⟨hnone, hget'⟩
    · rw [hget, hget']
      refine .cons ⟨n, hn, hsource⟩ (.cons ⟨m, hm, htarget⟩ ?_)
      simp only [bind, Except.bind, Order.connectionFault]
      by_cases hself : source = target
      · rw [if_pos hself]
        exact checked_of_not (by simpa using hself)
      rw [if_neg hself]
      refine .cons hself ?_
      by_cases hmem : ⟨source, target, relation⟩ ∈ g.edges
      · rw [if_pos hmem]
        exact checked_of_not (by simpa using hmem)
      rw [if_neg hmem]
      refine .cons hmem ?_
      have hopen := closes_no_cycle_iff h ⟨n, hn, hsource⟩ ⟨m, hm, htarget⟩ hself relation
      cases hcloses : relation.isHard && Order.wouldCreateCycle g.nodes g.edges source target with
      | true =>
          refine checked_of_not fun hcheck => ?_
          rw [hopen.2 hcheck] at hcloses
          cases hcloses
      | false => exact .cons (hopen.1 hcloses) ⟨List.forall_mem_nil _, rfl⟩
    · rw [hget, hget']
      exact .cons ⟨n, hn, hsource⟩ (checked_of_not hnone)
  · rw [hget]
    exact checked_of_not hnone

/-- An edge is added to a graph that changes lead to exactly when its checks hold, and refused for
the first of them that fails. What speaks against a connection of existing nodes agrees with it. -/
theorem add_edge_spec (h : g.Reachable) (source target : String) (relation : Relation) :
    (∀ g', g.addEdge source target relation = .ok g' ↔
      (∀ check ∈ edgeChecks g source target relation, check.1) ∧
        g' = { g with edges := g.edges ++ [⟨source, target, relation⟩] }) ∧
    (∀ e, g.addEdge source target relation = .error e ↔
      FirstFails (edgeChecks g source target relation) e) ∧
    ((∃ n ∈ g.nodes, n.id = source) → (∃ n ∈ g.nodes, n.id = target) →
      (Order.connectionFault g.nodes g.edges source target relation = none ↔
        ∃ g', g.addEdge source target relation = .ok g')) := by
  have hchecked := add_edge_checked h.well_formed source target relation
  refine ⟨fun g' => hchecked.eq_ok_iff, fun e => hchecked.eq_error_iff, ?_⟩
  intro hsource htarget
  simp only [add_edge_eq_ok_iff]
  constructor
  · intro hfault
    exact ⟨_, by simpa [nodeIds] using hsource, by simpa [nodeIds] using htarget, hfault, rfl⟩
  · rintro ⟨-, -, -, hfault, -⟩
    exact hfault

/-- An edge back to the first of two tasks in a row is refused when both are enabled, and added when
the second is switched off. -/
theorem add_edge_spec_back :
    let g : Graph := [GraphChange.addNode { id := "a", name := "a" },
      .addNode { id := "b", name := "b" }, .addNode { id := "off", name := "off", enabled := false },
      .addEdge "a" "b" .dependsOn, .addEdge "a" "off" .dependsOn].foldl after empty
    g.Reachable ∧ g.edges = [⟨"a", "b", .dependsOn⟩, ⟨"a", "off", .dependsOn⟩] ∧
      FirstFails (edgeChecks g "b" "a" .dependsOn) (.cycle .connection []) ∧
      (∀ check ∈ edgeChecks g "off" "a" .dependsOn, check.1) ∧
      Order.connectionFault g.nodes g.edges "off" "a" .dependsOn = none := by
  intro g
  have hg : g.Reachable := ⟨_, rfl⟩
  obtain ⟨-, hrefused, -⟩ := add_edge_spec hg "b" "a" .dependsOn
  obtain ⟨hadded, -, hfault⟩ := add_edge_spec hg "off" "a" .dependsOn
  have hoff : g.addEdge "off" "a" .dependsOn =
      .ok { g with edges := g.edges ++ [⟨"off", "a", .dependsOn⟩] } := by decide +kernel
  refine ⟨hg, by decide +kernel, (hrefused _).1 (by decide +kernel), ((hadded _).1 hoff).1, ?_⟩
  exact (hfault (by decide +kernel) (by decide +kernel)).2 ⟨_, hoff⟩

end Graph

end BuildGraph
