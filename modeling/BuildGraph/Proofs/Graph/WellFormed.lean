import BuildGraph.Proofs.Graph.Accepted
import BuildGraph.Proofs.Order.CycleSearch
import BuildGraph.Proofs.Order.ExecutionOrder
import BuildGraph.Proofs.Text.Trim

/-!
# Well-formed graphs

What holds of every graph that changes make of the empty one. The invariant has a part for the
nodes, for the edges, for the groups and for the variables, and each change is shown to keep the
parts that it touches.
-/

open Relation

namespace BuildGraph

open BuildGraph.Text

/-- Nodes have distinct ids and distinct identifiers, names that are not blank, and the settings of
their kind. -/
structure NodesWellFormed (nodes : List Node) : Prop where
  ids : (nodes.map Node.id).Nodup
  identifiers : (nodes.map Node.identifier).Nodup
  named : ∀ n ∈ nodes, isBlankText n.name = false
  configured : ∀ n ∈ nodes, Step.ofConfig? n.kind n.step.config = some n.step

/-- Edges are distinct and join distinct nodes, and no enabled node depends on itself through
enabled nodes. -/
structure EdgesWellFormed (nodes : List Node) (edges : List Edge) : Prop where
  nodup : edges.Nodup
  joined : ∀ e ∈ edges,
    e.source ≠ e.target ∧ e.source ∈ nodes.map Node.id ∧ e.target ∈ nodes.map Node.id
  acyclic : ∀ id, ¬ TransGen (Order.Requires nodes edges) id id

/-- Groups have distinct ids and short trimmed names that differ in more than case. Their members
are nodes, and no node is a member twice. -/
structure GroupsWellFormed (nodes : List Node) (groups : List Group) : Prop where
  ids : (groups.map Group.id).Nodup
  trimmed : ∀ group ∈ groups, trim group.name = group.name
  sized : ∀ group ∈ groups, 1 ≤ group.name.length ∧ group.name.length ≤ maxGroupNameLength
  names : (groups.map fun group => lower group.name).Nodup
  existing : ∀ group ∈ groups, ∀ member ∈ group.members, member ∈ nodes.map Node.id
  members : (groups.flatMap Group.members).Nodup

/-- Variables have distinct ids and distinct well-formed names, and values of their types. -/
structure VariablesSound (vars : List Variable) : Prop where
  ids : (vars.map Variable.id).Nodup
  names : (vars.map Variable.name).Nodup
  named : ∀ v ∈ vars, isVariableName v.name = true
  fitting : ∀ v ∈ vars, Graph.fits v

/-- Variables have distinct ids and distinct well-formed names, and values of their types. The
built-in ones are among them and differ from those of a new graph in their values alone. -/
structure VariablesWellFormed (vars : List Variable) : Prop where
  ids : (vars.map Variable.id).Nodup
  names : (vars.map Variable.name).Nodup
  named : ∀ v ∈ vars, isVariableName v.name = true
  fitting : ∀ v ∈ vars, Graph.fits v
  builtIn : ∀ s ∈ systemVariables, ∃ value, { s with value } ∈ vars

/-- All parts of the graph are well formed. -/
structure Graph.WellFormed (g : Graph) : Prop where
  nodes : NodesWellFormed g.nodes
  edges : EdgesWellFormed g.nodes g.edges
  groups : GroupsWellFormed g.nodes g.groups
  vars : VariablesWellFormed g.vars

section Replacing

variable {α β : Type}

/-- Keys stay distinct when all elements of a sort, of which there is one at most, are replaced by
an element whose key no other element has. -/
theorem nodup_map_replace {l : List α} {key : α → β} {p : α → Prop} [DecidablePred p] {new : α}
    (hnodup : (l.map key).Nodup) (hone : ∀ a ∈ l, ∀ b ∈ l, p a → p b → a = b)
    (hfree : ∀ a ∈ l, ¬ p a → key a ≠ key new) :
    ((l.map fun a => if p a then new else a).map key).Nodup := by
  rw [List.Nodup, List.pairwise_map, List.pairwise_map]
  rw [List.Nodup, List.pairwise_map] at hnodup
  refine hnodup.imp_of_mem fun {a b} ha hb hne => ?_
  by_cases hpa : p a <;> by_cases hpb : p b
  · exact absurd (congrArg key (hone a ha b hb hpa hpb)) hne
  · simpa [hpa, hpb] using (hfree b hb hpb).symm
  · simpa [hpa, hpb] using hfree a ha hpa
  · simpa [hpa, hpb] using hne

/-- Keys stay as they are when elements are replaced by one with the same key. -/
theorem map_replace_eq {l : List α} {key : α → β} {p : α → Prop} [DecidablePred p] {new : α}
    (hsame : ∀ a ∈ l, p a → key new = key a) :
    (l.map fun a => if p a then new else a).map key = l.map key := by
  rw [List.map_map]
  refine List.map_congr_left fun a ha => ?_
  by_cases hp : p a
  · simp [hp, hsame a ha hp]
  · simp [hp]

/-- What holds of a list and of a new element holds of the list with elements replaced by it. -/
theorem forall_mem_replace {l : List α} {p Q : α → Prop} [DecidablePred p] {new : α}
    (hall : ∀ a ∈ l, Q a) (hnew : Q new) :
    ∀ a ∈ l.map fun a => if p a then new else a, Q a := by
  intro b hb
  obtain ⟨a, ha, rfl⟩ := List.mem_map.1 hb
  by_cases hp : p a
  · simpa [hp] using hnew
  · simpa [hp] using hall a ha

end Replacing

section Nodes

variable {nodes : List Node} {n : Node} {id : String}

/-- The settings of a step are those of its kind. -/
theorem ofConfig_kind_config (n : Node) : Step.ofConfig? n.kind n.step.config = some n.step :=
  Step.ofConfig?_eq_some_iff.2 ⟨rfl, rfl⟩

theorem NodesWellFormed.append (h : NodesWellFormed nodes) (hid : n.id ∉ nodes.map Node.id)
    (hname : isBlankText n.name = false)
    (hidentifier : ∀ other ∈ nodes, other.identifier ≠ n.identifier) :
    NodesWellFormed (nodes ++ [n]) where
  ids := by
    rw [List.map_append, List.map_singleton]
    exact h.ids.append (by simp) (by simpa using hid)
  identifiers := by
    rw [List.map_append, List.map_singleton]
    exact h.identifiers.append (by simp) (by simpa using hidentifier)
  named := by simpa [or_imp, forall_and, hname] using h.named
  configured := fun n _ => ofConfig_kind_config n

theorem NodesWellFormed.filter (h : NodesWellFormed nodes) (p : Node → Bool) :
    NodesWellFormed (nodes.filter p) where
  ids := h.ids.sublist (List.filter_sublist.map _)
  identifiers := h.identifiers.sublist (List.filter_sublist.map _)
  named := fun n hn => h.named n (List.mem_filter.1 hn).1
  configured := fun n _ => ofConfig_kind_config n

theorem NodesWellFormed.replace (h : NodesWellFormed nodes) (hid : n.id = id)
    (hname : isBlankText n.name = false)
    (hidentifier : ∀ other ∈ nodes, other.id ≠ id → other.identifier ≠ n.identifier) :
    NodesWellFormed (nodes.map fun other => if other.id = id then n else other) where
  ids := by
    rw [map_replace_eq fun other _ heq => hid.trans heq.symm]
    exact h.ids
  identifiers := nodup_map_replace h.identifiers
    (fun a ha b hb hpa hpb => List.inj_on_of_nodup_map h.ids ha hb (hpa.trans hpb.symm))
    hidentifier
  named := forall_mem_replace h.named hname
  configured := fun n _ => ofConfig_kind_config n

end Nodes

section Edges

variable {nodes nodes' : List Node} {edges : List Edge} {e : Edge}

/-- A search that finds no cycle means that no enabled node depends on itself. -/
theorem find_cycle_enabled_eq_none_iff :
    Order.findCycle nodes edges false = none ↔
      ∀ id, ¬ TransGen (Order.Requires nodes edges) id id := by
  rw [Order.find_cycle_eq_none_iff, Order.Acyclic, Order.hard_edge_considered_ids]

/-- Whether an enabled node depends on itself is decided by the `dependsOn` edges and the enabled
nodes, and fewer of them do not close a cycle. -/
theorem acyclic_of_subset {edges' : List Edge}
    (hedges : ∀ a b, ⟨a, b, .dependsOn⟩ ∈ edges' → ⟨a, b, .dependsOn⟩ ∈ edges)
    (hnodes : ∀ id, Order.Enabled nodes' id → Order.Enabled nodes id)
    (h : ∀ id, ¬ TransGen (Order.Requires nodes edges) id id) :
    ∀ id, ¬ TransGen (Order.Requires nodes' edges') id id :=
  fun id hcycle => h id (TransGen.mono (fun a b hab =>
    ⟨hedges a b hab.1, hnodes a hab.2.1, hnodes b hab.2.2⟩) id id hcycle)

/-- Edges stay well formed on nodes with the same ids when no cycle is closed. -/
theorem EdgesWellFormed.change_nodes (h : EdgesWellFormed nodes edges)
    (hids : ∀ id ∈ nodes.map Node.id, id ∈ nodes'.map Node.id)
    (hacyclic : ∀ id, ¬ TransGen (Order.Requires nodes' edges) id id) :
    EdgesWellFormed nodes' edges where
  nodup := h.nodup
  joined := fun e he =>
    have hjoined := h.joined e he
    ⟨hjoined.1, hids _ hjoined.2.1, hids _ hjoined.2.2⟩
  acyclic := hacyclic

/-- Fewer edges are well formed on the nodes that they join. -/
theorem EdgesWellFormed.filter (h : EdgesWellFormed nodes edges) (p : Edge → Bool)
    (hnodes : ∀ id, Order.Enabled nodes' id → Order.Enabled nodes id)
    (hjoined : ∀ e ∈ edges, p e = true →
      e.source ∈ nodes'.map Node.id ∧ e.target ∈ nodes'.map Node.id) :
    EdgesWellFormed nodes' (edges.filter p) where
  nodup := h.nodup.filter p
  joined := fun e he =>
    have hmem := List.mem_filter.1 he
    ⟨(h.joined e hmem.1).1, hjoined e hmem.1 hmem.2⟩
  acyclic := acyclic_of_subset (fun _ _ hab => (List.mem_filter.1 hab).1) hnodes h.acyclic

theorem edges_well_formed_nil (nodes : List Node) : EdgesWellFormed nodes [] where
  nodup := List.nodup_nil
  joined := by simp
  acyclic := fun id hcycle => by
    obtain ⟨_, hedge, -⟩ := TransGen.head'_iff.1 hcycle
    exact List.not_mem_nil hedge.1

/-- An edge that nothing speaks against can be added. -/
theorem EdgesWellFormed.append (h : EdgesWellFormed nodes edges) {source target : String}
    {relation : Relation} (hsource : source ∈ nodes.map Node.id)
    (htarget : target ∈ nodes.map Node.id)
    (hfault : Order.connectionFault nodes edges source target relation = none) :
    EdgesWellFormed nodes (edges ++ [⟨source, target, relation⟩]) := by
  obtain ⟨hne, hnew, hcycle⟩ := Graph.connection_fault_eq_none_iff.1 hfault
  refine ⟨h.nodup.append (by simp) (by simpa using hnew), ?_, ?_⟩
  · intro e he
    rcases List.mem_append.1 he with he | he
    · exact h.joined e he
    · obtain rfl := List.mem_singleton.1 he
      exact ⟨hne, hsource, htarget⟩
  · by_cases hhard : relation.isHard = true
    · rw [Order.isHard_iff.1 hhard]
      exact find_cycle_enabled_eq_none_iff.1 (hcycle hhard)
    · -- an advisory edge is none of those that a cycle could go through
      refine acyclic_of_subset (fun a b hab => ?_) (fun _ henabled => henabled) h.acyclic
      rcases List.mem_append.1 hab with hab | hab
      · exact hab
      · obtain ⟨rfl, rfl, rfl⟩ : a = source ∧ b = target ∧ .dependsOn = relation := by
          simpa using hab
        exact absurd rfl hhard

end Edges

section Groups

variable {nodes nodes' : List Node} {groups : List Group} {id : String}

theorem groups_well_formed_nil (nodes : List Node) : GroupsWellFormed nodes [] := by
  constructor <;> simp

/-- Members that are left out leave well-formed groups behind. -/
theorem GroupsWellFormed.keep (h : GroupsWellFormed nodes groups) (p : String → Bool)
    (hnodes : ∀ id ∈ nodes.map Node.id, p id = true → id ∈ nodes'.map Node.id) :
    GroupsWellFormed nodes'
      (groups.map fun group => { group with members := group.members.filter p }) where
  ids := by simpa [Function.comp_def] using h.ids
  trimmed := by simpa using h.trimmed
  sized := by simpa using h.sized
  names := by simpa [Function.comp_def] using h.names
  existing := by
    simp only [List.mem_map, forall_exists_index, and_imp, forall_apply_eq_imp_iff₂,
      List.mem_filter]
    intro group hgroup member hmember hp
    simpa using hnodes member (h.existing group hgroup member hmember) hp
  members := by
    have hfilter : (groups.map fun group =>
        { group with members := group.members.filter p }).flatMap Group.members =
          (groups.flatMap Group.members).filter p := by
      rw [List.flatMap_map, List.filter_flatMap]
    rw [hfilter]
    exact h.members.filter p

theorem GroupsWellFormed.filter (h : GroupsWellFormed nodes groups) (p : Group → Bool) :
    GroupsWellFormed nodes (groups.filter p) where
  ids := h.ids.sublist (List.filter_sublist.map _)
  trimmed := fun group hgroup => h.trimmed group (List.mem_filter.1 hgroup).1
  sized := fun group hgroup => h.sized group (List.mem_filter.1 hgroup).1
  names := h.names.sublist (List.filter_sublist.map _)
  existing := fun group hgroup => h.existing group (List.mem_filter.1 hgroup).1
  members := h.members.sublist (List.filter_sublist.flatMap _)

/-- A suitable name for a new group, or a new name for a group: trimmed, of the right length, and
not the name of another one. -/
theorem trimmed_name_sized {name : String} (hempty : trim name ≠ "")
    (hlong : (trim name).length ≤ maxGroupNameLength) :
    1 ≤ (trim name).length ∧ (trim name).length ≤ maxGroupNameLength := by
  refine ⟨Nat.one_le_iff_ne_zero.2 fun hzero => hempty ?_, hlong⟩
  simpa using hzero

theorem GroupsWellFormed.append (h : GroupsWellFormed nodes groups) {group : Group}
    {name : String} (hid : ∀ other ∈ groups, other.id ≠ group.id) (hempty : trim name ≠ "")
    (hlong : (trim name).length ≤ maxGroupNameLength)
    (hfree : ∀ other ∈ groups, lower other.name ≠ lower (trim name)) :
    GroupsWellFormed nodes (groups ++ [{ group with name := trim name, members := [] }]) where
  ids := by
    rw [List.map_append, List.map_singleton]
    exact h.ids.append (by simp) (by simpa using hid)
  trimmed := by simpa [or_imp, forall_and, trim_trim] using h.trimmed
  sized := by
    intro other hother
    rcases List.mem_append.1 hother with hother | hother
    · exact h.sized other hother
    · obtain rfl := List.mem_singleton.1 hother
      exact trimmed_name_sized hempty hlong
  names := by
    rw [List.map_append, List.map_singleton]
    exact h.names.append (by simp) (by simpa using hfree)
  existing := by
    intro other hother
    rcases List.mem_append.1 hother with hother | hother
    · exact h.existing other hother
    · obtain rfl := List.mem_singleton.1 hother
      simp
  members := by simpa using h.members

/-- A group may be replaced by one of the same id that has a suitable name and no further
members. -/
theorem GroupsWellFormed.replace (h : GroupsWellFormed nodes groups) {group new : Group}
    (hmem : group ∈ groups) (hid : new.id = group.id) (htrimmed : trim new.name = new.name)
    (hsized : 1 ≤ new.name.length ∧ new.name.length ≤ maxGroupNameLength)
    (hname : ∀ other ∈ groups, other.id ≠ new.id → lower other.name ≠ lower new.name)
    (hmembers : new.members.Sublist group.members) :
    GroupsWellFormed nodes (groups.map fun other => if other.id = new.id then new else other) where
  ids := by
    rw [map_replace_eq fun other _ heq => heq.symm]
    exact h.ids
  trimmed := forall_mem_replace h.trimmed htrimmed
  sized := forall_mem_replace h.sized hsized
  names := nodup_map_replace h.names
    (fun a ha b hb hpa hpb => List.inj_on_of_nodup_map h.ids ha hb (hpa.trans hpb.symm)) hname
  existing := forall_mem_replace h.existing fun member hmember =>
    h.existing group hmem member (hmembers.subset hmember)
  members := by
    rw [List.flatMap_map]
    refine h.members.sublist (List.Sublist.flatMap_right _ fun other hother => ?_)
    by_cases heq : other.id = new.id
    · rw [if_pos heq, List.inj_on_of_nodup_map h.ids hother hmem (heq.trans hid)]
      exact hmembers
    · rw [if_neg heq]

/-- After a move a group has the members that were not moved, and the moved ones if it is the one
they went to. -/
theorem mem_moved_members {group : Group} {moved : List String} {member : String} :
    (member ∈ if group.id = id then (group.members.filter fun m => decide (m ∉ moved)) ++ moved
      else group.members.filter fun m => decide (m ∉ moved)) ↔
      (member ∈ group.members ∧ member ∉ moved) ∨ (group.id = id ∧ member ∈ moved) := by
  by_cases hid : group.id = id <;> simp [hid]

/-- Nodes may be moved into a group, out of all others. -/
theorem GroupsWellFormed.move (h : GroupsWellFormed nodes groups) {moved : List String}
    (hnodup : moved.Nodup) (hexist : ∀ nodeId ∈ moved, nodeId ∈ nodes.map Node.id) :
    GroupsWellFormed nodes (Graph.movedGroups groups id moved) where
  ids := by simpa [Graph.movedGroups, Function.comp_def] using h.ids
  trimmed := by simpa [Graph.movedGroups] using h.trimmed
  sized := by simpa [Graph.movedGroups] using h.sized
  names := by simpa [Graph.movedGroups, Function.comp_def] using h.names
  existing := by
    intro other hother member hmember
    obtain ⟨group, hgroup, rfl⟩ := List.mem_map.1 hother
    rcases mem_moved_members.1 hmember with ⟨hold, -⟩ | ⟨-, hnew⟩
    · exact h.existing group hgroup member hold
    · exact hexist member hnew
  members := by
    obtain ⟨hsingle, hdisjoint⟩ := List.nodup_flatMap.1 h.members
    have hids := h.ids
    rw [List.Nodup, List.pairwise_map] at hids
    rw [Graph.movedGroups, List.flatMap_map, List.nodup_flatMap]
    constructor
    · intro group hgroup
      have hkept := (hsingle group hgroup).filter fun m => decide (m ∉ moved)
      by_cases hid : group.id = id
      · simp only [hid, if_true]
        refine hkept.append hnodup fun m hm hm' => ?_
        simpa [hm'] using (List.mem_filter.1 hm).2
      · simpa only [hid, if_false] using hkept
    · -- Only one of two groups has the id, and what is kept in the other was not moved.
      refine (hids.and hdisjoint).imp fun {a b} hab m hma hmb => ?_
      obtain ⟨hne, hab⟩ := hab
      rcases mem_moved_members.1 hma with ⟨hma, hnot⟩ | ⟨hida, hmoved⟩ <;>
        rcases mem_moved_members.1 hmb with ⟨hmb, hnot'⟩ | ⟨hidb, hmoved'⟩
      · exact hab hma hmb
      · exact hnot hmoved'
      · exact hnot' hmoved
      · exact hne (hida.trans hidb.symm)

end Groups

section Variables

variable {vars : List Variable} {v : Variable} {name : String}

theorem isSystem_of_mem_system_variables : ∀ s ∈ systemVariables, s.isSystem = true := by
  decide

/-- The built-in variables are well formed. -/
theorem system_variables_well_formed : VariablesWellFormed systemVariables where
  ids := by decide
  names := by decide
  named := by decide
  fitting := by
    intro v hv
    simp only [systemVariables, List.mem_cons, List.not_mem_nil, or_false] at hv
    rcases hv with rfl | rfl | rfl <;> exact ⟨by decide, by simp⟩
  builtIn := fun s hs => ⟨s.value, hs⟩

theorem VariablesSound.append (h : VariablesSound vars)
    (hname : isVariableName v.name = true) (hnames : ∀ other ∈ vars, other.name ≠ v.name)
    (hids : ∀ other ∈ vars, other.id ≠ v.id) (hfits : Graph.fits v) :
    VariablesSound (vars ++ [v]) where
  ids := by
    rw [List.map_append, List.map_singleton]
    exact h.ids.append (by simp) (by simpa using hids)
  names := by
    rw [List.map_append, List.map_singleton]
    exact h.names.append (by simp) (by simpa using hnames)
  named := by simpa [or_imp, forall_and, hname] using h.named
  fitting := by simpa [or_imp, forall_and, hfits] using h.fitting

theorem VariablesWellFormed.sound (h : VariablesWellFormed vars) : VariablesSound vars :=
  ⟨h.ids, h.names, h.named, h.fitting⟩

theorem VariablesWellFormed.append (h : VariablesWellFormed vars)
    (hname : isVariableName v.name = true) (hnames : ∀ other ∈ vars, other.name ≠ v.name)
    (hids : ∀ other ∈ vars, other.id ≠ v.id) (hfits : Graph.fits v) :
    VariablesWellFormed (vars ++ [v]) :=
  { h.sound.append hname hnames hids hfits with
    builtIn := fun s hs =>
      (h.builtIn s hs).imp fun _ hvalue => List.mem_append_left _ hvalue }

/-- A built-in variable keeps all but its value when a variable is replaced by one that differs in
its value alone in case it is built in. -/
theorem exists_value_of_replace {s new : Variable} (hnames : (vars.map Variable.name).Nodup)
    (hs : s.isSystem = true) (hthere : ∃ value, { s with value } ∈ vars) (hv : v ∈ vars)
    (hbuiltIn : v.isSystem = true → new = { v with value := new.value }) :
    ∃ value,
      { s with value } ∈ vars.map fun other => if other.name = v.name then new else other := by
  obtain ⟨value, hvalue⟩ := hthere
  by_cases heq : s.name = v.name
  · -- the built-in variable is the one that is replaced, and only its value may change
    have hsame : { s with value } = v := List.inj_on_of_nodup_map hnames hvalue hv heq
    refine ⟨new.value, List.mem_map.2 ⟨v, hv, ?_⟩⟩
    rw [if_pos rfl, hbuiltIn (by rw [← hsame, hs]), ← hsame]
  · exact ⟨value, List.mem_map.2 ⟨_, hvalue, by rw [if_neg heq]⟩⟩

/-- A built-in variable stays when one is removed that is not built in. -/
theorem exists_value_of_remove {s : Variable} (hnames : (vars.map Variable.name).Nodup)
    (hs : s.isSystem = true) (hthere : ∃ value, { s with value } ∈ vars) (hv : v ∈ vars)
    (huser : v.isSystem = false) :
    ∃ value, { s with value } ∈ vars.filter fun other => decide (other.name ≠ v.name) := by
  obtain ⟨value, hvalue⟩ := hthere
  refine ⟨value, List.mem_filter.2 ⟨hvalue, decide_eq_true fun heq => ?_⟩⟩
  have hsame : { s with value } = v := List.inj_on_of_nodup_map hnames hvalue hv heq
  rw [← hsame] at huser
  exact Bool.false_ne_true (huser.symm.trans hs)

/-- A variable may be replaced by one of the same id with a name that no other one has and with
values of its type. If it is built in, it may change its value alone. -/
theorem VariablesWellFormed.replace (h : VariablesWellFormed vars) {new : Variable}
    (hv : v ∈ vars) (hid : new.id = v.id) (hname : isVariableName new.name = true)
    (hnames : ∀ other ∈ vars, other.name ≠ v.name → other.name ≠ new.name)
    (hfits : Graph.fits new)
    (hbuiltIn : v.isSystem = true → new = { v with value := new.value }) :
    VariablesWellFormed (vars.map fun other => if other.name = v.name then new else other) where
  ids := by
    rw [map_replace_eq fun other hother heq => ?_]
    · exact h.ids
    · rw [List.inj_on_of_nodup_map h.names hother hv heq, hid]
  names := nodup_map_replace h.names
    (fun a ha b hb hpa hpb => List.inj_on_of_nodup_map h.names ha hb (hpa.trans hpb.symm)) hnames
  named := forall_mem_replace h.named hname
  fitting := forall_mem_replace h.fitting hfits
  builtIn := fun s hs => exists_value_of_replace h.names (isSystem_of_mem_system_variables s hs)
    (h.builtIn s hs) hv hbuiltIn

/-- A variable that is not built in may be removed. -/
theorem VariablesWellFormed.remove (h : VariablesWellFormed vars) (hv : v ∈ vars)
    (huser : v.isSystem = false) :
    VariablesWellFormed (vars.filter fun other => decide (other.name ≠ v.name)) where
  ids := h.ids.sublist (List.filter_sublist.map _)
  names := h.names.sublist (List.filter_sublist.map _)
  named := fun other hother => h.named other (List.mem_filter.1 hother).1
  fitting := fun other hother => h.fitting other (List.mem_filter.1 hother).1
  builtIn := fun s hs => exists_value_of_remove h.names (isSystem_of_mem_system_variables s hs)
    (h.builtIn s hs) hv huser

end Variables

namespace Graph

variable {g g' : Graph} {id name : String}

theorem empty_well_formed : empty.WellFormed where
  nodes := by constructor <;> simp [empty]
  edges := edges_well_formed_nil _
  groups := groups_well_formed_nil _
  vars := system_variables_well_formed

/-- A node comes to the end without touching the rest. -/
theorem WellFormed.add_node (h : g.WellFormed) {n : Node} (hg' : g.addNode n = .ok g') :
    g'.WellFormed := by
  obtain ⟨hid, hname, hidentifier, rfl⟩ := add_node_eq_ok_iff.1 hg'
  have hmore : ∀ id ∈ g.nodes.map Node.id, id ∈ (g.nodes ++ [n]).map Node.id := by
    intro id hmem
    rw [List.map_append]
    exact List.mem_append_left _ hmem
  refine ⟨h.nodes.append hid hname hidentifier, h.edges.change_nodes hmore ?_, ?_, h.vars⟩
  · -- No edge touches the new node, so a cycle would only have gone through the old ones.
    refine fun id hcycle => h.edges.acyclic id (TransGen.mono ?_ id id hcycle)
    rintro a b ⟨hedge, ⟨m, hm, hmenabled, rfl⟩, ⟨m', hm', hmenabled', rfl⟩⟩
    obtain ⟨-, hsource, htarget⟩ := h.edges.joined _ hedge
    refine ⟨hedge, ⟨m, ?_, hmenabled, rfl⟩, ⟨m', ?_, hmenabled', rfl⟩⟩
    · refine (List.mem_append.1 hm).resolve_right fun hlast => hid ?_
      rwa [List.mem_singleton.1 hlast] at hsource
    · refine (List.mem_append.1 hm').resolve_right fun hlast => hid ?_
      rwa [List.mem_singleton.1 hlast] at htarget
  · exact { h.groups with
      existing := fun group hgroup member hmember =>
        hmore _ (h.groups.existing group hgroup member hmember) }

theorem WellFormed.update_node (h : g.WellFormed) {change : NodeChange}
    (hg' : g.updateNode id change = .ok g') : g'.WellFormed := by
  obtain ⟨current, updated, hcurrent, rfl, happly, hname, hidentifier, rfl, hcycle⟩ :=
    update_node_eq_ok hg'
  have hid := NodeChange.apply_eq_ok happly
  have hnodes := h.nodes.replace hid hname hidentifier
  have hids : (g.nodes.map fun n => if n.id = current.id then updated else n).map Node.id =
      g.nodes.map Node.id := map_replace_eq fun other _ heq => hid.trans heq.symm
  refine ⟨hnodes, h.edges.change_nodes (fun id hmem => hids ▸ hmem) ?_, ?_, h.vars⟩
  · rcases hcycle with henabled | hnone
    · refine acyclic_of_subset (fun _ _ hedge => hedge) ?_ h.edges.acyclic
      -- what is enabled after the change was enabled before it
      rintro id ⟨m, hm, hmenabled, rfl⟩
      obtain ⟨old, hold, rfl⟩ := List.mem_map.1 hm
      by_cases heq : old.id = current.id
      · rw [if_pos heq] at hmenabled ⊢
        exact ⟨current, hcurrent, henabled hmenabled, hid.symm⟩
      · rw [if_neg heq] at hmenabled ⊢
        exact ⟨old, hold, hmenabled, rfl⟩
    · exact find_cycle_enabled_eq_none_iff.1 hnone
  · exact { h.groups with
      existing := fun group hgroup member hmember =>
        hids ▸ h.groups.existing group hgroup member hmember }

theorem WellFormed.remove_node (h : g.WellFormed) (hg' : g.removeNode id = .ok g') :
    g'.WellFormed := by
  obtain rfl := remove_node_eq_ok hg'
  have hkept : ∀ id' ∈ g.nodes.map Node.id, id' ≠ id →
      id' ∈ (g.nodes.filter fun n => decide (n.id ≠ id)).map Node.id := by
    intro id' hmem hne
    obtain ⟨n, hn, rfl⟩ := List.mem_map.1 hmem
    exact List.mem_map.2 ⟨n, List.mem_filter.2 ⟨hn, decide_eq_true hne⟩, rfl⟩
  refine ⟨h.nodes.filter _, h.edges.filter _ ?_ ?_, h.groups.keep _ ?_, h.vars⟩
  · rintro id' ⟨n, hn, henabled, rfl⟩
    exact ⟨n, (List.mem_filter.1 hn).1, henabled, rfl⟩
  · intro e he hends
    obtain ⟨-, hsource, htarget⟩ := h.edges.joined e he
    simp only [Bool.and_eq_true, decide_eq_true_eq] at hends
    exact ⟨hkept _ hsource hends.1, hkept _ htarget hends.2⟩
  · exact fun id' hmem hne => hkept id' hmem (of_decide_eq_true hne)

theorem WellFormed.add_edge (h : g.WellFormed) {source target : String} {relation : Relation}
    (hg' : g.addEdge source target relation = .ok g') : g'.WellFormed := by
  obtain ⟨hsource, htarget, hfault, rfl⟩ := add_edge_eq_ok_iff.1 hg'
  exact { h with edges := h.edges.append hsource htarget hfault }

theorem WellFormed.remove_edge (h : g.WellFormed) {source target : String} {relation : Relation}
    (hg' : g.removeEdge source target relation = .ok g') : g'.WellFormed := by
  obtain ⟨-, rfl⟩ := remove_edge_eq_ok hg'
  exact { h with
    edges := h.edges.filter _ (fun _ henabled => henabled) fun e he _ => (h.edges.joined e he).2 }

theorem WellFormed.update_edge_relation (h : g.WellFormed) {source target : String}
    {relation new : Relation} (hg' : g.updateEdgeRelation source target relation new = .ok g') :
    g'.WellFormed := by
  obtain ⟨removed, hremoved, hadded⟩ := bind_eq_ok_iff.1 hg'
  exact (h.remove_edge hremoved).add_edge hadded

theorem WellFormed.add_group (h : g.WellFormed) {group : Group}
    (hg' : g.addGroup group = .ok g') : g'.WellFormed := by
  obtain ⟨hid, hempty, hlong, hfree, hmembers, rfl⟩ := add_group_eq_ok_iff.1 hg'
  exact { h with
    groups := (h.groups.append hid hempty hlong hfree).move (nodup_firsts _) fun nodeId hmem =>
      hmembers nodeId (mem_firsts.1 hmem) }

theorem WellFormed.rename_group (h : g.WellFormed) (hg' : g.renameGroup id name = .ok g') :
    g'.WellFormed := by
  obtain ⟨group, hgroup, rfl, hempty, hlong, hfree, rfl⟩ := rename_group_eq_ok hg'
  exact { h with
    groups := h.groups.replace hgroup rfl (trim_trim name) (trimmed_name_sized hempty hlong) hfree
      (.refl _) }

theorem WellFormed.remove_group (h : g.WellFormed) (hg' : g.removeGroup id = .ok g') :
    g'.WellFormed := by
  obtain rfl := remove_group_eq_ok hg'
  exact { h with groups := h.groups.filter _ }

theorem WellFormed.assign_to_group (h : g.WellFormed) {nodeIds : List String}
    (hg' : g.assignToGroup id nodeIds = .ok g') : g'.WellFormed := by
  obtain ⟨-, hexist, rfl⟩ := assign_to_group_eq_ok_iff.1 hg'
  exact { h with
    groups := h.groups.move (nodup_firsts _) fun nodeId hmem =>
      hexist nodeId (mem_firsts.1 hmem) }

theorem WellFormed.remove_from_group (h : g.WellFormed) {nodeIds : List String}
    (hg' : g.removeFromGroup id nodeIds = .ok g') : g'.WellFormed := by
  obtain ⟨group, hgroup, rfl, rfl⟩ := remove_from_group_eq_ok hg'
  -- The group keeps its own name, which no group of another id has.
  have hfree : ∀ other ∈ g.groups, other.id ≠ group.id → lower other.name ≠ lower group.name :=
    fun other hother hne heq =>
      hne (congrArg Group.id (List.inj_on_of_nodup_map h.groups.names hother hgroup heq))
  exact { h with
    groups := h.groups.replace hgroup rfl (h.groups.trimmed group hgroup)
      (h.groups.sized group hgroup) hfree List.filter_sublist }

theorem WellFormed.add_variable (h : g.WellFormed) {v : Variable}
    (hg' : g.addVariable v = .ok g') : g'.WellFormed := by
  obtain ⟨hname, hnames, hids, hfits, rfl⟩ := add_variable_eq_ok_iff.1 hg'
  exact { h with vars := h.vars.append hname hnames hids hfits }

theorem WellFormed.update_variable_value (h : g.WellFormed) {value : Option String}
    (hg' : g.updateVariableValue name value = .ok g') : g'.WellFormed := by
  obtain ⟨v, hv, rfl, hvalue, rfl⟩ := update_variable_value_eq_ok hg'
  exact { h with
    vars := h.vars.replace hv rfl (h.vars.named v hv) (fun _ _ hne => hne)
      ⟨(h.vars.fitting v hv).1, hvalue⟩ fun _ => rfl }

theorem WellFormed.rename_variable (h : g.WellFormed) {new : String}
    (hg' : g.renameVariable name new = .ok g') : g'.WellFormed := by
  rcases rename_variable_eq_ok hg' with rfl | ⟨v, hv, rfl, huser, hname, hfree, rfl⟩
  · exact h
  · exact { h with
      vars := h.vars.replace hv rfl hname (fun other hother _ => hfree other hother)
        (h.vars.fitting v hv) fun hsystem => by simp [huser] at hsystem }

theorem WellFormed.remove_variable (h : g.WellFormed)
    (hg' : g.removeVariable name = .ok g') : g'.WellFormed := by
  obtain ⟨v, hv, rfl, huser, rfl⟩ := remove_variable_eq_ok hg'
  exact { h with vars := h.vars.remove hv huser }

/-- Every accepted change keeps a graph well formed. -/
theorem WellFormed.apply (h : g.WellFormed) {change : GraphChange}
    (hg' : change.apply g = .ok g') : g'.WellFormed := by
  cases change with
  | addNode n => exact h.add_node hg'
  | updateNode id change => exact h.update_node hg'
  | removeNode id => exact h.remove_node hg'
  | addEdge source target relation => exact h.add_edge hg'
  | removeEdge source target relation => exact h.remove_edge hg'
  | updateEdgeRelation source target relation new => exact h.update_edge_relation hg'
  | addGroup group => exact h.add_group hg'
  | renameGroup id name => exact h.rename_group hg'
  | removeGroup id => exact h.remove_group hg'
  | assignToGroup id nodeIds => exact h.assign_to_group hg'
  | removeFromGroup id nodeIds => exact h.remove_from_group hg'
  | addVariable v => exact h.add_variable hg'
  | updateVariableValue name value => exact h.update_variable_value hg'
  | renameVariable name new => exact h.rename_variable hg'
  | removeVariable name => exact h.remove_variable hg'

/-- Reachable graphs are well formed. -/
theorem Reachable.well_formed (h : g.Reachable) : g.WellFormed :=
  h.induction empty_well_formed fun _ _ _ hg hg' => hg.apply hg'

/-- Whatever is tried on the empty graph, in any order and with any arguments, leaves a well-formed
graph. -/
theorem well_formed_after (changes : List GraphChange) :
    (changes.foldl after empty).WellFormed :=
  Reachable.well_formed ⟨changes, rfl⟩

end Graph

end BuildGraph
