import BuildGraph.Proofs.Document.RoundTrip

/-!
# The order of edges

Each edge is looked at in the graph with the edges before it, but what is asked of all of them
together has no order: they are distinct and not in the graph yet, they join distinct nodes, and no
enabled node comes to depend on itself. This holds of the edges before when it holds of all, so
edges are added one after another exactly when it holds (`add_edges_eq_ok_iff`), and then they are
added in any order. `edge_order_spec` says this of edges that are added and of those of a document.
-/

namespace BuildGraph

/-- Edges are well formed in any order. -/
theorem EdgesWellFormed.perm {nodes : List Node} {edges edges' : List Edge}
    (h : EdgesWellFormed nodes edges) (hperm : edges'.Perm edges) :
    EdgesWellFormed nodes edges' where
  nodup := hperm.nodup_iff.2 h.nodup
  joined := fun e he => h.joined e (hperm.mem_iff.1 he)
  acyclic := acyclic_of_subset (fun _ _ hab => hperm.mem_iff.1 hab) (fun _ henabled => henabled)
    h.acyclic

namespace Graph

open Document

variable {g g' : Graph} {edges edges' : List Edge}

/-- Adds edges one after another. -/
def addEdges (g : Graph) (edges : List Edge) : Except GraphError Graph :=
  edges.foldlM (fun g e => g.addEdge e.source e.target e.relation) g

section Added

/-- Edges are added to well-formed ones exactly when they are well formed with them. -/
theorem add_edges_eq_ok_iff (h : EdgesWellFormed g.nodes g.edges) :
    g.addEdges edges = .ok g' ↔
      EdgesWellFormed g.nodes (g.edges ++ edges) ∧ g' = { g with edges := g.edges ++ edges } := by
  induction edges generalizing g with
  | nil => simp [addEdges, pure, Except.pure, h, eq_comm]
  | cons e edges ih =>
      have hstep : g.addEdges (e :: edges) = .ok g' ↔
          ∃ next, g.addEdge e.source e.target e.relation = .ok next ∧
            next.addEdges edges = .ok g' := by
        rw [addEdges, List.foldlM_cons, bind_eq_ok_iff]
        rfl
      rw [hstep]
      constructor
      · rintro ⟨next, hnext, hadded⟩
        obtain ⟨hsource, htarget, hfault, rfl⟩ := add_edge_eq_ok_iff.1 hnext
        simpa using (ih (h.append hsource htarget hfault)).1 hadded
      · rintro ⟨hall, rfl⟩
        have hnext := add_edge_of_prefix hall
        obtain ⟨hsource, htarget, hfault, -⟩ := add_edge_eq_ok_iff.1 hnext
        exact ⟨_, hnext, (ih (h.append hsource htarget hfault)).2 (by simpa using hall)⟩

/-- Edges that are added can be added in any order, and the edges that come of it have that
order. -/
theorem add_edges_of_perm (h : EdgesWellFormed g.nodes g.edges) (hperm : edges'.Perm edges)
    (hadded : g.addEdges edges = .ok g') :
    g.addEdges edges' = .ok { g' with edges := g.edges ++ edges' } := by
  obtain ⟨hall, rfl⟩ := (add_edges_eq_ok_iff h).1 hadded
  exact (add_edges_eq_ok_iff h).2 ⟨hall.perm (hperm.append_left _), rfl⟩

end Added

section Read

variable {α : Type} {add : Graph → α → Except GraphError Graph}
  {read : Document → Except DocumentError α} {items items' : List Document} {as : List α}

/-- Items in another order are read to the same elements in that order. -/
theorem mapM_read_of_perm (hperm : items'.Perm items) (hreads : items.mapM read = .ok as) :
    ∃ as', items'.mapM read = .ok as' ∧ as'.Perm as := by
  obtain ⟨as', hreads', hperm'⟩ := List.perm_comp_forall₂ hperm (mapM_eq_ok_iff.1 hreads)
  exact ⟨as', mapM_eq_ok_iff.2 hreads', hperm'⟩

/-- What is read and can be added one after another is read and added one after another. -/
theorem foldlM_of_read (hreads : items.mapM read = .ok as) (hadded : as.foldlM add g = .ok g') :
    items.foldlM (fun g item => do attempt (add g (← read item))) g = .ok g' := by
  rw [mapM_eq_ok_iff] at hreads
  induction hreads generalizing g with
  | nil => simpa [pure, Except.pure] using hadded
  | cons hread _ ih =>
      rw [List.foldlM_cons] at hadded ⊢
      obtain ⟨next, hnext, hadded⟩ := bind_eq_ok_iff.1 hadded
      exact bind_eq_ok_iff.2
        ⟨next, bind_eq_ok_iff.2 ⟨_, hread, attempt_eq_ok_iff.2 hnext⟩, ih hadded⟩

/-- Groups do not depend on the edges of a graph. -/
theorem foldlM_group_with_edges {groups : List Group} (edges : List Edge)
    (h : groups.foldlM addGroup g = .ok g') :
    groups.foldlM addGroup { g with edges } = .ok { g' with edges } := by
  induction groups generalizing g with
  | nil =>
      obtain rfl : g = g' := by simpa [pure, Except.pure] using h
      rfl
  | cons group groups ih =>
      rw [List.foldlM_cons] at h ⊢
      obtain ⟨next, hnext, h⟩ := bind_eq_ok_iff.1 h
      obtain ⟨hid, hempty, hlong, hfree, hmembers, rfl⟩ := add_group_eq_ok_iff.1 hnext
      exact bind_eq_ok_iff.2 ⟨_, add_group_eq_ok_iff.2 ⟨hid, hempty, hlong, hfree, hmembers, rfl⟩,
        ih h⟩

/-- Two documents differ in the order of their edges alone. -/
structure SameButEdgeOrder (d d' : Document) : Prop where
  others : ∀ key, key ≠ "edges" → d'.fieldItems key = d.fieldItems key
  edges : (d'.fieldItems "edges").Perm (d.fieldItems "edges")

variable {d d' : Document}

theorem SameButEdgeOrder.symm (h : SameButEdgeOrder d d') : SameButEdgeOrder d' d where
  others := fun key hkey => (h.others key hkey).symm
  edges := h.edges.symm

/-- A document with its edges in another order is read to the same graph with its edges in another
order. -/
theorem ofDocument_of_same (hsame : SameButEdgeOrder d d') (h : ofDocument d = .ok g) :
    ∃ edges, edges.Perm g.edges ∧ ofDocument d' = .ok { g with edges } := by
  simp only [ofDocument, bind_eq_ok_iff] at h
  obtain ⟨g₁, hvars, g₂, hbuiltIn, g₃, hnodes, g₄, hedges, hgroups⟩ := h
  -- before the edges come the graph has none, nor has it groups
  obtain ⟨_, -, hdeclared⟩ := foldlM_read addVariable hvars
  obtain ⟨hsound, hg₁⟩ := vars_of_foldlM hdeclared
  obtain ⟨-, -, -, hg₂⟩ := vars_of_foldlM_missing hsound (fun _ hname => hname)
    (attempt_eq_ok_iff.1 hbuiltIn)
  obtain ⟨_, -, hadded⟩ := foldlM_read addNode hnodes
  obtain ⟨-, hg₃⟩ := nodes_of_foldlM (by rw [hg₂, hg₁]) hadded
  have hnone : g₃.edges = [] := by rw [hg₃]
  have hwell : EdgesWellFormed g₃.nodes g₃.edges := hnone ▸ edges_well_formed_nil _
  obtain ⟨edges, hreads, hedges⟩ :=
    foldlM_read (fun g (e : Edge) => g.addEdge e.source e.target e.relation) hedges
  obtain ⟨-, hg₄⟩ := (add_edges_eq_ok_iff hwell).1 hedges
  obtain ⟨edges', hreads', hperm⟩ := mapM_read_of_perm hsame.edges hreads
  have hedges' : g₃.addEdges edges' = .ok { g₄ with edges := edges' } := by
    simpa [hnone] using add_edges_of_perm hwell hperm hedges
  obtain ⟨groups, hread, hgroups⟩ := foldlM_read addGroup hgroups
  obtain ⟨-, hg⟩ := groups_of_foldlM (by rw [hg₄, hg₃]) hgroups
  refine ⟨edges', ?_, ?_⟩
  · have hedges_eq : g.edges = edges := by rw [hg, hg₄, hnone, List.nil_append]
    rwa [hedges_eq]
  · simp only [ofDocument, bind_eq_ok_iff]
    refine ⟨g₁, ?_, g₂, hbuiltIn, g₃, ?_, _, foldlM_of_read hreads' hedges', ?_⟩
    · rwa [hsame.others _ (by decide)]
    · rwa [hsame.others _ (by decide)]
    · rw [hsame.others _ (by decide)]
      exact foldlM_of_read hread (foldlM_group_with_edges edges' hgroups)

end Read

/-- Edges are added to a graph that changes lead to exactly when they are well formed with those it
has, and so in one order exactly when in every order; what comes of it has the same edges and else
is the same. A document is read to a graph exactly when it is with its edges in another order, and
the graphs have the same edges and else are the same. -/
theorem edge_order_spec :
    (∀ g : Graph, g.Reachable → ∀ edges : List Edge,
      ((∃ g', g.addEdges edges = .ok g') ↔ EdgesWellFormed g.nodes (g.edges ++ edges)) ∧
      ((∃ g', g.addEdges edges = .ok g') ↔
        ∀ edges', edges'.Perm edges → ∃ g', g.addEdges edges' = .ok g') ∧
      ∀ edges' g₁ g₂, edges'.Perm edges → g.addEdges edges = .ok g₁ → g.addEdges edges' = .ok g₂ →
        g₂.edges.Perm g₁.edges ∧ g₂ = { g₁ with edges := g₂.edges }) ∧
    ∀ d d' : Document, SameButEdgeOrder d d' →
      ((∃ g, ofDocument d = .ok g) ↔ ∃ g, ofDocument d' = .ok g) ∧
      ∀ g₁ g₂, ofDocument d = .ok g₁ → ofDocument d' = .ok g₂ →
        g₂.edges.Perm g₁.edges ∧ g₂ = { g₁ with edges := g₂.edges } := by
  refine ⟨fun g hreachable edges => ?_, fun d d' hsame => ?_⟩
  · have hwell := hreachable.well_formed.edges
    refine ⟨?_, ⟨?_, fun hall => hall edges (.refl _)⟩, ?_⟩
    · simp [add_edges_eq_ok_iff hwell]
    · rintro ⟨g', hadded⟩ edges' hperm
      exact ⟨_, add_edges_of_perm hwell hperm hadded⟩
    · intro edges' g₁ g₂ hperm hadded hadded'
      obtain ⟨-, rfl⟩ := (add_edges_eq_ok_iff hwell).1 hadded
      obtain ⟨-, rfl⟩ := (add_edges_eq_ok_iff hwell).1 hadded'
      exact ⟨hperm.append_left _, rfl⟩
  · refine ⟨⟨?_, ?_⟩, ?_⟩
    · rintro ⟨g, hread⟩
      obtain ⟨edges, -, hread'⟩ := ofDocument_of_same hsame hread
      exact ⟨_, hread'⟩
    · rintro ⟨g, hread⟩
      obtain ⟨edges, -, hread'⟩ := ofDocument_of_same hsame.symm hread
      exact ⟨_, hread'⟩
    · intro g₁ g₂ hread hread'
      obtain ⟨edges, hperm, hread''⟩ := ofDocument_of_same hsame hread
      obtain rfl := Except.ok.inj (hread'.symm.trans hread'')
      exact ⟨hperm, rfl⟩

/-- Requirements that close a cycle through a disabled node, added from the last to the first, and
read from a document that lists them so. -/
theorem edge_order_spec_reversed :
    let g : Graph := [GraphChange.addNode { id := "a", name := "a" },
      .addNode { id := "b", name := "b" },
      .addNode { id := "c", name := "c", enabled := false }].foldl after empty
    let edges : List Edge := [⟨"a", "b", .dependsOn⟩, ⟨"b", "c", .dependsOn⟩,
      ⟨"c", "a", .dependsOn⟩]
    let joined := { g with edges }
    let turned := { g with edges := edges.reverse }
    let document := fun edges : List Edge => object
      [("variables", list (g.vars.map Variable.toDocument)),
        ("nodes", list (g.nodes.map Node.toDocument)),
        ("edges", list (edges.map Edge.toDocument))]
    g.Reachable ∧ edges.reverse.Perm edges ∧
      g.addEdges edges = .ok joined ∧ g.addEdges edges.reverse = .ok turned ∧
      EdgesWellFormed g.nodes (g.edges ++ edges) ∧
      SameButEdgeOrder (document edges) (document edges.reverse) ∧
      ofDocument (document edges) = .ok joined ∧
      ofDocument (document edges.reverse) = .ok turned ∧
      turned.edges.Perm joined.edges ∧ turned = { joined with edges := turned.edges } := by
  intro g edges joined turned document
  have hreachable : g.Reachable := ⟨_, rfl⟩
  have hperm : edges.reverse.Perm edges := List.reverse_perm edges
  have hadded : g.addEdges edges = .ok joined := by decide +kernel
  have hadded' : g.addEdges edges.reverse = .ok turned := by decide +kernel
  have hsame : SameButEdgeOrder (document edges) (document edges.reverse) := by
    refine ⟨fun key hkey => ?_, ?_⟩
    · simp [document, fieldItems, hkey.symm]
    · simp [document, fieldItems, items]
  have hread : ofDocument (document edges) = .ok joined := by decide +kernel
  have hread' : ofDocument (document edges.reverse) = .ok turned := by decide +kernel
  exact ⟨hreachable, hperm, hadded, hadded',
    (edge_order_spec.1 g hreachable edges).1.1 ⟨_, hadded⟩, hsame, hread, hread',
    (edge_order_spec.2 _ _ hsame).2 _ _ hread hread'⟩

end Graph

end BuildGraph
