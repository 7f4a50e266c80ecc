import BuildGraph.Proofs.Document.Parts
import BuildGraph.Proofs.Graph.WellFormed

/-!
# Graphs and their documents

A graph is read by making its changes again: its variables are declared, and its nodes, edges and
groups are added one after another. Whatever is accepted in this way is consistent, and the parts of
a consistent graph are accepted one after another and make the graph they are taken from, since
every list of parts that starts a consistent one is consistent too. So all graphs that changes lead
to come back from their documents, and all that documents are read to: `document_round_trip`.
-/

open Relation

namespace BuildGraph.Graph

open BuildGraph.Text Document

variable {g g' : Graph}

section Rebuilding

/-- Adds variables, those that are built in, nodes, edges and groups to the graph without
anything. -/
def rebuild (vars : List Variable) (nodes : List Node) (edges : List Edge) (groups : List Group) :
    Except GraphError Graph := do
  let g ← vars.foldlM addVariable bare
  let g ← g.addMissingSystemVariables
  let g ← nodes.foldlM addNode g
  let g ← edges.foldlM (fun g e => g.addEdge e.source e.target e.relation) g
  groups.foldlM addGroup g

theorem attempt_eq_ok_iff {result : Except GraphError Graph} :
    attempt result = .ok g ↔ result = .ok g := by
  cases result <;> simp [attempt, Except.mapError]

/-- Parts that are read one after another are added one after another. -/
theorem foldlM_written {α : Type} (add : Graph → α → Except GraphError Graph)
    {read : Document → Except DocumentError α} {write : α → Document}
    (hread : ∀ a, read (write a) = .ok a) (as : List α) (g : Graph) :
    (as.map write).foldlM (fun g item => do attempt (add g (← read item))) g =
      attempt (as.foldlM add g) := by
  induction as generalizing g with
  | nil => rfl
  | cons a as ih =>
      rw [List.map_cons, List.foldlM_cons, List.foldlM_cons, hread]
      cases hadd : add g a with
      | error cause => simp [hadd, attempt, Except.mapError, bind, Except.bind]
      | ok g' => simpa [hadd, attempt, Except.mapError, bind, Except.bind] using ih g'

/-- What is read and added one after another is parts that are read and then added one after
another. -/
theorem foldlM_read {α : Type} (add : Graph → α → Except GraphError Graph)
    {read : Document → Except DocumentError α} {items : List Document}
    (h : items.foldlM (fun g item => do attempt (add g (← read item))) g = .ok g') :
    ∃ as : List α, items.mapM read = .ok as ∧ as.foldlM add g = .ok g' := by
  induction items generalizing g with
  | nil => exact ⟨[], rfl, by simpa [pure, Except.pure] using h⟩
  | cons item items ih =>
      rw [List.foldlM_cons] at h
      obtain ⟨next, hnext, h⟩ := bind_eq_ok_iff.1 h
      obtain ⟨a, hread, hadd⟩ := bind_eq_ok_iff.1 hnext
      obtain ⟨as, hreads, has⟩ := ih h
      refine ⟨a :: as, ?_, ?_⟩
      · rw [List.mapM_cons, hread, hreads]
        rfl
      · rw [List.foldlM_cons]
        exact bind_eq_ok_iff.2 ⟨next, attempt_eq_ok_iff.1 hadd, has⟩

/-- A graph is rebuilt from its document. -/
theorem ofDocument_toDocument_eq_ok_iff {g g' : Graph} :
    ofDocument g.toDocument = .ok g' ↔ rebuild g.vars g.nodes g.edges g.groups = .ok g' := by
  have hitems : g.toDocument.fieldItems "variables" = g.vars.map Variable.toDocument ∧
      g.toDocument.fieldItems "nodes" = g.nodes.map Node.toDocument ∧
      g.toDocument.fieldItems "edges" = g.edges.map Edge.toDocument ∧
      g.toDocument.fieldItems "groups" = g.groups.map Group.toDocument := by
    simp [toDocument, fieldItems, items]
  obtain ⟨hvars, hnodes, hedges, hgroups⟩ := hitems
  simp only [ofDocument, rebuild, hvars, hnodes, hedges, hgroups, bind_eq_ok_iff,
    attempt_eq_ok_iff, foldlM_written addVariable Variable.ofDocument_toDocument,
    foldlM_written addNode Node.ofDocument_toDocument,
    foldlM_written addGroup Group.ofDocument_toDocument,
    foldlM_written (fun g (e : Edge) => g.addEdge e.source e.target e.relation)
      Edge.ofDocument_toDocument]

/-- A graph that a document is read to is rebuilt from the variables of the document and from other
parts that are read. -/
theorem rebuild_of_ofDocument {d : Document} (h : ofDocument d = .ok g) :
    ∃ vars nodes edges groups, (d.fieldItems "variables").mapM Variable.ofDocument = .ok vars ∧
      rebuild vars nodes edges groups = .ok g := by
  simp only [ofDocument, bind_eq_ok_iff] at h
  obtain ⟨g₁, hvars, g₂, hbuiltIn, g₃, hnodes, g₄, hedges, hgroups⟩ := h
  obtain ⟨vars, hread, hvars⟩ := foldlM_read addVariable hvars
  obtain ⟨nodes, -, hnodes⟩ := foldlM_read addNode hnodes
  obtain ⟨edges, -, hedges⟩ :=
    foldlM_read (fun g (e : Edge) => g.addEdge e.source e.target e.relation) hedges
  obtain ⟨groups, -, hgroups⟩ := foldlM_read addGroup hgroups
  refine ⟨vars, nodes, edges, groups, hread, ?_⟩
  simp only [rebuild, bind_eq_ok_iff]
  exact ⟨g₁, hvars, g₂, attempt_eq_ok_iff.1 hbuiltIn, g₃, hnodes, g₄, hedges, hgroups⟩

theorem exists_rebuild_of_ofDocument {d : Document} (h : ofDocument d = .ok g) :
    ∃ vars nodes edges groups, rebuild vars nodes edges groups = .ok g := by
  obtain ⟨vars, nodes, edges, groups, -, hrebuild⟩ := rebuild_of_ofDocument h
  exact ⟨vars, nodes, edges, groups, hrebuild⟩

end Rebuilding

section Consistency

/-- The parts of a graph fit together, and variables with the names of all built-in ones are among
them. -/
structure Consistent (g : Graph) : Prop where
  vars : VariablesSound g.vars
  builtIn : ∀ s ∈ systemVariables, s.name ∈ g.vars.map Variable.name
  nodes : NodesWellFormed g.nodes
  edges : EdgesWellFormed g.nodes g.edges
  groups : GroupsWellFormed g.nodes g.groups

theorem WellFormed.consistent (h : g.WellFormed) : Consistent g where
  vars := h.vars.sound
  builtIn := fun s hs => by
    obtain ⟨value, hvalue⟩ := h.vars.builtIn s hs
    exact List.mem_map.2 ⟨_, hvalue, rfl⟩
  nodes := h.nodes
  edges := h.edges
  groups := h.groups

variable {α : Type} {add : Graph → α → Except GraphError Graph}

/-- What every addition keeps is kept by additions one after another. -/
theorem foldlM_keeps {P : Graph → Prop} (hadd : ∀ g a g', P g → add g a = .ok g' → P g')
    {as : List α} (hg : P g) (h : as.foldlM add g = .ok g') : P g' := by
  induction as generalizing g with
  | nil =>
      obtain rfl : g = g' := by simpa [pure, Except.pure] using h
      exact hg
  | cons a as ih =>
      rw [List.foldlM_cons] at h
      obtain ⟨next, hnext, h⟩ := bind_eq_ok_iff.1 h
      exact ih (hadd g a next hg hnext) h

/-- Parts are accepted one after another when each of them is accepted behind the ones before it. -/
theorem foldlM_prefixes (add : Graph → α → Except GraphError Graph) (put : List α → Graph)
    (as : List α)
    (hadd : ∀ before a after, as = before ++ a :: after →
      add (put before) a = .ok (put (before ++ [a]))) :
    as.foldlM add (put []) = .ok (put as) := by
  suffices hall : ∀ before after, as = before ++ after →
      after.foldlM add (put before) = .ok (put as) from hall [] as rfl
  intro before after has
  induction after generalizing before with
  | nil => simp [has, pure, Except.pure]
  | cons a after ih =>
      rw [List.foldlM_cons, hadd before a after has]
      exact ih (before ++ [a]) (by simpa using has)

end Consistency

section Accepted

variable {vars : List Variable} {nodes : List Node} {edges : List Edge} {groups : List Group}

/-- Variables that are declared one after another are sound. -/
theorem vars_of_foldlM (h : vars.foldlM addVariable bare = .ok g) :
    VariablesSound g.vars ∧ g = { vars := g.vars } := by
  refine foldlM_keeps (P := fun g => VariablesSound g.vars ∧ g = { vars := g.vars }) ?_ ?_ h
  · rintro g v g' ⟨hsound, hg⟩ hadd
    obtain ⟨hname, hnames, hids, hfits, rfl⟩ := add_variable_eq_ok_iff.1 hadd
    exact ⟨hsound.append hname hnames hids hfits, by rw [hg]⟩
  · exact ⟨by constructor <;> simp [bare], rfl⟩

/-- Variables of all names that are missing are declared, and nothing else changes. -/
theorem vars_of_foldlM_missing {declared : List String} (hg : VariablesSound g.vars)
    (hdeclared : ∀ name ∈ declared, name ∈ g.vars.map Variable.name)
    (h : vars.foldlM (fun g v => if v.name ∈ declared then .ok g else g.addVariable v) g = .ok g') :
    VariablesSound g'.vars ∧ (∀ v ∈ vars, v.name ∈ g'.vars.map Variable.name) ∧
      (∀ v ∈ g.vars, v ∈ g'.vars) ∧ g' = { g with vars := g'.vars } := by
  induction vars generalizing g with
  | nil =>
      obtain rfl : g = g' := by simpa [pure, Except.pure] using h
      exact ⟨hg, by simp, fun _ hv => hv, rfl⟩
  | cons v vars ih =>
      rw [List.foldlM_cons] at h
      obtain ⟨next, hnext, h⟩ := bind_eq_ok_iff.1 h
      split_ifs at hnext with hmem
      · obtain rfl := Except.ok.inj hnext
        obtain ⟨hsound, hall, hkept, hrest⟩ := ih hg hdeclared h
        refine ⟨hsound, List.forall_mem_cons.2 ⟨?_, hall⟩, hkept, hrest⟩
        obtain ⟨w, hw, hname⟩ := List.mem_map.1 (hdeclared _ hmem)
        exact List.mem_map.2 ⟨w, hkept w hw, hname⟩
      · obtain ⟨hname, hnames, hids, hfits, rfl⟩ := add_variable_eq_ok_iff.1 hnext
        obtain ⟨hsound, hall, hkept, hrest⟩ := ih (hg.append hname hnames hids hfits)
          (fun name hname => by simp [hdeclared name hname]) h
        refine ⟨hsound, List.forall_mem_cons.2 ⟨?_, hall⟩, fun w hw => hkept w (by simp [hw]),
          hrest⟩
        exact List.mem_map.2 ⟨v, hkept v (by simp), rfl⟩

/-- Nodes that are added to a graph without edges and groups are well formed. -/
theorem nodes_of_foldlM (hg : g = { vars := g.vars }) (h : nodes.foldlM addNode g = .ok g') :
    NodesWellFormed g'.nodes ∧ g' = { nodes := g'.nodes, vars := g.vars } := by
  refine foldlM_keeps (P := fun g' => NodesWellFormed g'.nodes ∧
    g' = { nodes := g'.nodes, vars := g.vars }) ?_ ?_ h
  · rintro g₁ n g₂ ⟨hnodes, hg₁⟩ hadd
    obtain ⟨hid, hname, hidentifier, rfl⟩ := add_node_eq_ok_iff.1 hadd
    exact ⟨hnodes.append hid hname hidentifier, by rw [hg₁]⟩
  · rw [hg]
    exact ⟨by constructor <;> simp, rfl⟩

/-- Edges that are added to a graph without edges are well formed. -/
theorem edges_of_foldlM (hg : g.edges = [])
    (h : edges.foldlM (fun g e => g.addEdge e.source e.target e.relation) g = .ok g') :
    EdgesWellFormed g.nodes g'.edges ∧ g' = { g with edges := g'.edges } := by
  refine foldlM_keeps (P := fun g' => EdgesWellFormed g.nodes g'.edges ∧
    g' = { g with edges := g'.edges }) ?_ ?_ h
  · rintro g₁ e g₂ ⟨hedges, hg₁⟩ hadd
    obtain ⟨hsource, htarget, hfault, rfl⟩ := add_edge_eq_ok_iff.1 hadd
    rw [hg₁] at hsource htarget hfault
    exact ⟨hedges.append hsource htarget hfault, by rw [hg₁]⟩
  · rw [hg]
    exact ⟨edges_well_formed_nil _, by rw [← hg]⟩

/-- Groups that are added to a graph without groups are well formed. -/
theorem groups_of_foldlM (hg : g.groups = []) (h : groups.foldlM addGroup g = .ok g') :
    GroupsWellFormed g.nodes g'.groups ∧ g' = { g with groups := g'.groups } := by
  refine foldlM_keeps (P := fun g' => GroupsWellFormed g.nodes g'.groups ∧
    g' = { g with groups := g'.groups }) ?_ ?_ h
  · rintro g₁ group g₂ ⟨hgroups, hg₁⟩ hadd
    obtain ⟨hid, hempty, hlong, hfree, hmembers, rfl⟩ := add_group_eq_ok_iff.1 hadd
    rw [hg₁] at hmembers
    exact ⟨(hgroups.append hid hempty hlong hfree).move (nodup_firsts _) fun nodeId hmem =>
      hmembers nodeId (mem_firsts.1 hmem), by rw [hg₁]⟩
  · rw [hg]
    exact ⟨groups_well_formed_nil _, by rw [← hg]⟩

/-- What is rebuilt is consistent. -/
theorem consistent_of_rebuild (h : rebuild vars nodes edges groups = .ok g) : Consistent g := by
  simp only [rebuild, bind_eq_ok_iff] at h
  obtain ⟨g₁, hvars, g₂, hbuiltIn, g₃, hnodes, g₄, hedges, hgroups⟩ := h
  obtain ⟨hsound, hg₁⟩ := vars_of_foldlM hvars
  obtain ⟨hsound, hall, -, hg₂⟩ := vars_of_foldlM_missing hsound (fun _ hname => hname) hbuiltIn
  obtain ⟨hnodes, hg₃⟩ := nodes_of_foldlM (by rw [hg₂, hg₁]) hnodes
  obtain ⟨hedges, hg₄⟩ := edges_of_foldlM (by rw [hg₃]) hedges
  obtain ⟨hgroups, hg⟩ := groups_of_foldlM (by rw [hg₄, hg₃]) hgroups
  have hnodes_eq : g.nodes = g₃.nodes := by rw [hg, hg₄]
  have hvars_eq : g.vars = g₂.vars := by rw [hg, hg₄, hg₃]
  have hedges_eq : g.edges = g₄.edges := by rw [hg]
  have hnodes_eq' : g₄.nodes = g₃.nodes := by rw [hg₄]
  exact {
    vars := hvars_eq ▸ hsound
    builtIn := hvars_eq ▸ hall
    nodes := hnodes_eq ▸ hnodes
    edges := by rwa [hnodes_eq, hedges_eq]
    groups := by rwa [hnodes_eq, ← hnodes_eq'] }

end Accepted

section Replayed

variable {vars before after : List Variable} {v : Variable}

/-- The key of an element is none of those before it when keys are distinct. -/
theorem ne_of_nodup_map {α β : Type} {key : α → β} {before after : List α} {a : α}
    (h : ((before ++ a :: after).map key).Nodup) : ∀ b ∈ before, key b ≠ key a := by
  rw [List.map_append, List.nodup_append] at h
  exact fun b hb => h.2.2 _ (List.mem_map_of_mem hb) _ (by simp)

/-- A variable of a sound list is declared behind those before it. -/
theorem add_variable_of_prefix (h : VariablesSound (before ++ v :: after)) :
    addVariable { vars := before } v = .ok { vars := before ++ [v] } :=
  add_variable_eq_ok_iff.2 ⟨h.named v (by simp), ne_of_nodup_map h.names, ne_of_nodup_map h.ids,
    h.fitting v (by simp), rfl⟩

theorem add_missing_system_variables_eq
    (h : ∀ s ∈ systemVariables, s.name ∈ vars.map Variable.name) :
    addMissingSystemVariables { vars } = .ok { vars } := by
  rw [addMissingSystemVariables]
  dsimp only
  generalize systemVariables = missing at h ⊢
  induction missing with
  | nil => rfl
  | cons s missing ih =>
      rw [List.forall_mem_cons] at h
      rw [List.foldlM_cons, if_pos h.1]
      exact ih h.2

/-- A node of a well-formed list is added behind those before it. -/
theorem add_node_of_prefix {before after : List Node} {n : Node}
    (h : NodesWellFormed (before ++ n :: after)) :
    addNode { nodes := before, vars } n = .ok { nodes := before ++ [n], vars } := by
  refine add_node_eq_ok_iff.2 ⟨fun hmem => ?_, h.named n (by simp),
    ne_of_nodup_map h.identifiers, rfl⟩
  obtain ⟨other, hother, hid⟩ := List.mem_map.1 hmem
  exact ne_of_nodup_map h.ids other hother hid

/-- An edge of a well-formed list is added behind those before it. -/
theorem add_edge_of_prefix {before after : List Edge} {e : Edge}
    (h : EdgesWellFormed g.nodes (before ++ e :: after)) :
    addEdge { g with edges := before } e.source e.target e.relation =
      .ok { g with edges := before ++ [e] } := by
  obtain ⟨hne, hsource, htarget⟩ := h.joined e (by simp)
  refine add_edge_eq_ok_iff.2 ⟨hsource, htarget, connection_fault_eq_none_iff.2 ⟨hne, ?_, ?_⟩, rfl⟩
  · exact fun hmem => (List.nodup_append.1 h.nodup).2.2 e hmem e (by simp) rfl
  · intro hhard
    refine find_cycle_enabled_eq_none_iff.2 (acyclic_of_subset (fun a b hab => ?_)
      (fun _ henabled => henabled) h.acyclic)
    -- the edge that is checked is the one that is added, as it is a hard one
    obtain ⟨source, target, relation⟩ := e
    obtain rfl := Order.isHard_iff.1 hhard
    rcases List.mem_append.1 hab with hab | hab
    · exact List.mem_append_left _ hab
    · exact List.mem_append_right _ (List.mem_singleton.1 hab ▸ List.mem_cons_self)

/-- A group of a well-formed list is added behind those before it, and its members leave no other
group. -/
theorem add_group_of_prefix {nodes : List Node} {edges : List Edge} {before after : List Group}
    {group : Group} (h : GroupsWellFormed nodes (before ++ group :: after)) :
    addGroup { nodes, edges, groups := before, vars } group =
      .ok { nodes, edges, groups := before ++ [group], vars } := by
  have hmem : group ∈ before ++ group :: after := by simp
  have htrimmed := h.trimmed group hmem
  have hsized := h.sized group hmem
  have hnodup : group.members.Nodup := (List.nodup_flatMap.1 h.members).1 group hmem
  have hapart : ∀ other ∈ before, ∀ member ∈ other.members, member ∉ group.members := by
    intro other hother member hmember hmember'
    have hpairs := (List.pairwise_append.1 (List.nodup_flatMap.1 h.members).2).2.2
    exact hpairs other hother group (by simp) hmember hmember'
  have hids := ne_of_nodup_map h.ids
  rw [add_group_eq_ok_iff, htrimmed]
  refine ⟨hids, ?_, hsized.2, ne_of_nodup_map h.names, h.existing group hmem, ?_⟩
  · intro hempty
    simp [hempty] at hsized
  · have hmoved : movedGroups (before ++ [{ group with members := [] }]) group.id
        (firsts group.members) = before ++ [group] := by
      rw [Order.firsts_eq_self hnodup, movedGroups, List.map_append, List.map_singleton]
      congr 1
      · refine (List.map_congr_left fun other hother => ?_).trans (List.map_id _)
        have hkept : (other.members.filter fun m => decide (m ∉ group.members)) = other.members :=
          List.filter_eq_self.2 fun m hm => by simpa using hapart other hother m hm
        simp only [hkept, if_neg (hids other hother), id]
      · simp
    rw [hmoved]

/-- The parts of a consistent graph are accepted again and make it. -/
theorem Consistent.rebuild (h : Consistent g) :
    rebuild g.vars g.nodes g.edges g.groups = .ok g := by
  obtain ⟨nodes, edges, groups, vars⟩ := g
  obtain ⟨hvars, hbuiltIn, hnodes, hedges, hgroups⟩ := h
  dsimp only at hvars hbuiltIn hnodes hedges hgroups
  have hdeclared : vars.foldlM addVariable bare = .ok { vars } :=
    foldlM_prefixes addVariable (fun vars => { vars }) vars fun before v after heq =>
      add_variable_of_prefix (heq ▸ hvars : VariablesSound (before ++ v :: after))
  have hnodes_added : nodes.foldlM addNode { vars } = .ok { nodes, vars } :=
    foldlM_prefixes addNode (fun nodes => { nodes, vars }) nodes fun before n after heq =>
      add_node_of_prefix (heq ▸ hnodes : NodesWellFormed (before ++ n :: after))
  have hedges_added : edges.foldlM (fun (g : Graph) e => g.addEdge e.source e.target e.relation)
      { nodes, vars } = .ok { nodes, edges, vars } :=
    foldlM_prefixes (fun g (e : Edge) => g.addEdge e.source e.target e.relation)
      (fun edges => { nodes, edges, vars }) edges fun before e after heq =>
        add_edge_of_prefix (g := { nodes, vars })
          (heq ▸ hedges : EdgesWellFormed nodes (before ++ e :: after))
  have hgroups_added : groups.foldlM addGroup { nodes, edges, vars } =
      .ok { nodes, edges, groups, vars } :=
    foldlM_prefixes addGroup (fun groups => { nodes, edges, groups, vars }) groups
      fun before group after heq =>
        add_group_of_prefix (heq ▸ hgroups : GroupsWellFormed nodes (before ++ group :: after))
  simp only [Graph.rebuild, bind_eq_ok_iff]
  exact ⟨_, hdeclared, _, add_missing_system_variables_eq hbuiltIn, _, hnodes_added, _,
    hedges_added, hgroups_added⟩

end Replayed

/-- Every graph that changes lead to comes back from its document, and so does every graph that a
document is read to. -/
theorem document_round_trip :
    (∀ g : Graph, g.Reachable → ofDocument g.toDocument = .ok g) ∧
      ∀ d g, ofDocument d = .ok g → ofDocument g.toDocument = .ok g := by
  refine ⟨fun g hreachable => ?_, fun d g hread => ?_⟩
  · exact ofDocument_toDocument_eq_ok_iff.2 hreachable.well_formed.consistent.rebuild
  · obtain ⟨vars, nodes, edges, groups, hrebuild⟩ := exists_rebuild_of_ofDocument hread
    exact ofDocument_toDocument_eq_ok_iff.2 (consistent_of_rebuild hrebuild).rebuild

/-- A graph with a group that lost a member to another one, and a document that declares a built-in
variable in its own way and leaves out what has a default. -/
theorem document_round_trip_moved_member :
    let g : Graph := [GraphChange.addNode { id := "a", name := "a", trigger := some .manual },
      .addNode { id := "b", name := "b", step := .exec { environment := .ofList [("K", "v")] } },
      .addEdge "a" "b" .dependsOn, .addGroup { id := "x", name := " X ", members := ["b", "a"] },
      .addGroup { id := "y", name := "Y", members := ["b"] },
      .updateVariableValue "version" (some "2")].foldl after empty
    let d : Document := object [
      ("variables", list [object [("id", text "v"), ("name", text "version")]]),
      ("nodes", list [object [("id", text "n"), ("name", text "n"), ("kind", text "Delete")]])]
    let read : Graph := {
      nodes := [{ id := "n", name := "n", step := .delete {} }]
      vars := { id := "v", name := "version" } :: systemVariables.take 2 }
    g.Reachable ∧ ofDocument g.toDocument = .ok g ∧ ofDocument d = .ok read ∧
      ofDocument read.toDocument = .ok read := by
  intro g d read
  have hreachable : g.Reachable := ⟨_, rfl⟩
  have hread : ofDocument d = .ok read := by decide +kernel
  exact ⟨hreachable, document_round_trip.1 g hreachable, hread, document_round_trip.2 d read hread⟩

end BuildGraph.Graph
