import BuildGraph.Proofs.Script.Recognized

/-!
# Nothing that is recognized is lost

Each task that is recognized in a script becomes a node of the graph or an error, each declaration a
variable or a remark, and each argument of a relation in the body of a task that became a node an
edge or a remark; and the graph holds nothing else. An `Account` of the script says so, and
`script_accounted` that every script which is read has one.
-/

namespace BuildGraph.Script

open BuildGraph.Number BuildGraph.Text

variable {text : String} {items : List Item} {r r' r'' : ScriptReading} {found : Findings}
  {ids : IdGenerator}

section Account

/-- An argument of a relation in the body of a task that became a node. -/
structure Argument where
  node : Node
  relation : Relation
  tokens : List Token

/-- The arguments of the relations in the body of a task that became a node. -/
def argumentsOf (made : TaskItem × Node) : List Argument :=
  made.1.arguments.map fun argument => ⟨made.2, argument.1, argument.2⟩

/-- The node is the one of the task. -/
def Becomes (item : TaskItem) (n : Node) : Prop := n.name = item.name

/-- The variable is the declared one. -/
def Declares (declared : String × String) (v : Variable) : Prop :=
  (v.name, v.defaultValue) = declared

/-- The remark says that the declared variable is ignored. -/
def IgnoredBy (declared : String × String) (w : ScriptWarning) : Prop :=
  ∃ cause, w = .variableIgnored declared.1 cause

/-- The ends of the edge that relates a task to another. -/
def edgeTo (n other : Node) (relation : Relation) : Edge :=
  if relation = .finalizedBy then ⟨n.id, other.id, relation⟩ else ⟨other.id, n.id, relation⟩

/-- The edge joins the task of the argument and the one that the argument refers to. -/
def Joins (g : Graph) (a : Argument) (e : Edge) : Prop :=
  ∃ name other, taskReference? a.tokens = some name ∧ g.nodeNamed? name = some other ∧
    e = edgeTo a.node other a.relation

/-- The remark says why the argument joins its task to no other. -/
inductive RemarkedBy (text : String) (g : Graph) (a : Argument) : ScriptWarning → Prop
  | unreadable : taskReference? a.tokens = none → RemarkedBy text g a
      (.body a.node.name (.unreadableReference a.relation (spanned text a.tokens)))
  | unknown {name : String} : taskReference? a.tokens = some name → g.nodeNamed? name = none →
      RemarkedBy text g a (.unknownTask a.node.name a.relation name)
  | refused {name : String} {other : Node} {cause : GraphError} :
      taskReference? a.tokens = some name → g.nodeNamed? name = some other →
      RemarkedBy text g a (.relationIgnored a.node.name a.relation name cause)

/-- The remark is about none of the things that are recognized. -/
inductive Other : ScriptWarning → Prop
  | lexical (line : Nat) (fault : LexicalFault) : Other (.lexical line fault)
  | guard (task raw : String) : Other (.body task (.unreadableGuard raw))
  | noTasks : Other .noTasks

/-- What became of the items that were recognized in a script. -/
structure Account (text : String) (items : List Item) (r : ScriptReading) where
  made : List (TaskItem × Node)
  failed : List (TaskItem × BlockError)
  kept : List ((String × String) × Variable)
  ignored : List ((String × String) × ScriptWarning)
  joined : List (Argument × Edge)
  remarked : List (Argument × ScriptWarning)
  others : List ScriptWarning
  tasks : Sorts Becomes FailsWith (items.filterMap Item.task?) made failed
  nodes : made.map Prod.snd = r.graph.nodes
  errors : (failed.map Prod.snd).Perm r.errors
  declarations : Sorts Declares IgnoredBy (items.filterMap Item.declaration?) kept ignored
  vars : kept.map Prod.snd = r.graph.userVariables
  arguments : Sorts (Joins r.graph) (RemarkedBy text r.graph) (made.flatMap argumentsOf)
    joined remarked
  edges : joined.map Prod.snd = r.graph.edges
  /-- Beside the remarks on variables and arguments there are those on the arguments of tasks that
  became no node. -/
  warnings : r.warnings.Perm (ignored.map Prod.snd ++ remarked.map Prod.snd ++
    failed.flatMap (fun task => task.1.remarks text) ++ others)
  other : ∀ w ∈ others, Other w

end Account

section Assembly

/-- A reading with what another one holds added at the end of each part. -/
instance : Append ScriptReading where
  append r more := {
    graph := {
      nodes := r.graph.nodes ++ more.graph.nodes
      edges := r.graph.edges ++ more.graph.edges
      groups := r.graph.groups ++ more.graph.groups
      vars := r.graph.vars ++ more.graph.vars }
    errors := r.errors ++ more.errors
    warnings := r.warnings ++ more.warnings }

theorem reading_append (r more : ScriptReading) : r ++ more = {
    graph := {
      nodes := r.graph.nodes ++ more.graph.nodes
      edges := r.graph.edges ++ more.graph.edges
      groups := r.graph.groups ++ more.graph.groups
      vars := r.graph.vars ++ more.graph.vars }
    errors := r.errors ++ more.errors
    warnings := r.warnings ++ more.warnings } :=
  rfl

/-- Each declared variable becomes one of the graph, or is remarked on. -/
theorem declareVariables_sorts (vars : List Variable) (r : ScriptReading) :
    ∃ kept ignored, Sorts (fun v v' => v = v')
        (fun (v : Variable) w => ∃ cause, w = ScriptWarning.variableIgnored v.name cause)
        vars kept ignored ∧
      declareVariables vars r = r ++ {
        graph := { vars := kept.map Prod.snd }
        warnings := ignored.map Prod.snd } := by
  induction vars generalizing r with
  | nil => exact ⟨[], [], .nil, by simp [declareVariables, reading_append]⟩
  | cons v vars ih =>
      rw [declareVariables]
      cases hadd : r.graph.addVariable v with
      | ok graph =>
          obtain ⟨-, -, -, -, rfl⟩ := Graph.add_variable_eq_ok_iff.1 hadd
          obtain ⟨kept, ignored, hsorts, heq⟩ :=
            ih { r with graph := { r.graph with vars := r.graph.vars ++ [v] } }
          exact ⟨(v, v) :: kept, ignored, .left rfl hsorts, by simp [heq, reading_append]⟩
      | error cause =>
          obtain ⟨kept, ignored, hsorts, heq⟩ :=
            ih { r with warnings := r.warnings ++ [.variableIgnored v.name cause] }
          exact ⟨kept, (v, _) :: ignored, .right ⟨cause, rfl⟩ hsorts,
            by simp [heq, reading_append]⟩

/-- Each block becomes a node, or leaves an error. -/
theorem addNodes_sorts (blocks : List Block) (ids : IdGenerator) (r : ScriptReading) :
    ∃ failed, Sorts (fun b n => ∃ id, n = b.toNode id)
        (fun (b : Block) (e : BlockError) => e.task = b.name ∧ e.line = b.line)
        blocks (addNodes blocks ids r).2 failed ∧
      (addNodes blocks ids r).1 = r ++ {
        graph := { nodes := (addNodes blocks ids r).2.map Prod.snd }
        errors := failed.map Prod.snd } := by
  induction blocks generalizing ids r with
  | nil => exact ⟨[], .nil, by simp [addNodes, reading_append]⟩
  | cons b blocks ih =>
      rw [addNodes]
      generalize ids.unique ("task_" ++ toIdentifier b.name) = issued
      obtain ⟨id, ids⟩ := issued
      dsimp only
      cases hadd : r.graph.addNode (b.toNode id) with
      | ok graph =>
          obtain ⟨-, -, -, rfl⟩ := Graph.add_node_eq_ok_iff.1 hadd
          obtain ⟨failed, hsorts, heq⟩ :=
            ih ids { r with graph := { r.graph with nodes := r.graph.nodes ++ [b.toNode id] } }
          exact ⟨failed, .left ⟨id, rfl⟩ hsorts, by simp [heq, reading_append]⟩
      | error cause =>
          obtain ⟨failed, hsorts, heq⟩ :=
            ih ids { r with errors := r.errors ++ [⟨b.name, b.line, cause.message⟩] }
          exact ⟨(b, ⟨b.name, b.line, cause.message⟩) :: failed, .right ⟨rfl, rfl⟩ hsorts,
            by simp [heq, reading_append]⟩

/-- A relation of a node to a task of some name. -/
abbrev Reference := Node × Relation × String

/-- The edge joins the node and the one of the name. -/
def JoinsNamed (g : Graph) (a : Reference) (e : Edge) : Prop :=
  ∃ other, g.nodeNamed? a.2.2 = some other ∧ e = edgeTo a.1 other a.2.1

/-- The remark says why the node is joined to none. -/
inductive RemarkedNamed (g : Graph) (a : Reference) : ScriptWarning → Prop
  | unknown : g.nodeNamed? a.2.2 = none → RemarkedNamed g a (.unknownTask a.1.name a.2.1 a.2.2)
  | refused {other : Node} {cause : GraphError} : g.nodeNamed? a.2.2 = some other →
      RemarkedNamed g a (.relationIgnored a.1.name a.2.1 a.2.2 cause)

/-- Nodes are looked up by name among the nodes of the graph. -/
theorem sorts_named_of_nodes {g g' : Graph} {references : List Reference}
    {joined : List (Reference × Edge)} {remarked : List (Reference × ScriptWarning)}
    (hnodes : g.nodes = g'.nodes)
    (h : Sorts (JoinsNamed g) (RemarkedNamed g) references joined remarked) :
    Sorts (JoinsNamed g') (RemarkedNamed g') references joined remarked := by
  have hsame : g.nodeNamed? = g'.nodeNamed? := by
    funext name
    rw [Graph.nodeNamed?, Graph.nodeNamed?, hnodes]
  refine h.imp (fun a e hjoins => ?_) fun a w hremarked => ?_
  · rwa [JoinsNamed, ← hsame]
  · cases hremarked with
    | unknown hnone => exact .unknown (hsame ▸ hnone)
    | refused hother => exact .refused (hsame ▸ hother)

/-- Each of the references adds an edge or is remarked on, and nothing else happens. -/
def Joined (references : List Reference) (r r' : ScriptReading) : Prop :=
  ∃ joined remarked,
    Sorts (JoinsNamed r.graph) (RemarkedNamed r.graph) references joined remarked ∧
    r' = r ++ { graph := { edges := joined.map Prod.snd }, warnings := remarked.map Prod.snd }

theorem Joined.nil (r : ScriptReading) : Joined [] r r :=
  ⟨[], [], .nil, by simp [reading_append]⟩

theorem Joined.trans {references more : List Reference} (h : Joined references r r')
    (h' : Joined more r' r'') : Joined (references ++ more) r r'' := by
  obtain ⟨joined, remarked, hsorts, hadded⟩ := h
  obtain ⟨joined', remarked', hsorts', hadded'⟩ := h'
  have hnodes : r'.graph.nodes = r.graph.nodes := by simp [hadded, reading_append]
  exact ⟨_, _, hsorts.append (sorts_named_of_nodes hnodes hsorts'),
    by simp [hadded, hadded', reading_append]⟩

theorem joined_addRelation {b : Block} {n : Node} (hname : n.name = b.name) (r : ScriptReading)
    (relation : Relation × String) :
    Joined [(n, relation)] r (addRelation b n r relation) := by
  rw [addRelation]
  cases hother : r.graph.nodeNamed? relation.2 with
  | none =>
      refine ⟨[], [(_, _)], .right (.unknown hother) .nil, ?_⟩
      simp [hname, reading_append]
  | some other =>
      dsimp only
      cases hadd : r.graph.addEdge
        (if relation.1 = .finalizedBy then (n.id, other.id) else (other.id, n.id)).1
        (if relation.1 = .finalizedBy then (n.id, other.id) else (other.id, n.id)).2
        relation.1 with
      | ok graph =>
          obtain ⟨-, -, -, rfl⟩ := Graph.add_edge_eq_ok_iff.1 hadd
          refine ⟨[(_, _)], [], .left ⟨other, hother, rfl⟩ .nil, ?_⟩
          by_cases hfinal : relation.1 = .finalizedBy <;> simp [edgeTo, hfinal, reading_append]
      | error cause =>
          refine ⟨[], [(_, _)], .right (@RemarkedNamed.refused _ _ _ cause hother) .nil, ?_⟩
          simp [hname, reading_append]

theorem joined_foldl {b : Block} {n : Node} (hname : n.name = b.name)
    (relations : List (Relation × String)) (r : ScriptReading) :
    Joined (relations.map (n, ·)) r (relations.foldl (addRelation b n) r) := by
  induction relations generalizing r with
  | nil => exact .nil r
  | cons relation relations ih => exact (joined_addRelation hname r relation).trans (ih _)

/-- Every relation of the blocks that became nodes adds an edge or is remarked on. -/
theorem joined_blocks {built : List (Block × Node)} (hnames : ∀ b ∈ built, b.2.name = b.1.name)
    (r : ScriptReading) :
    Joined (built.flatMap fun b => b.1.relations.map (b.2, ·)) r
      (built.foldl (fun r b => b.1.relations.foldl (addRelation b.1 b.2) r) r) := by
  induction built generalizing r with
  | nil => exact .nil r
  | cons b built ih =>
      rw [List.forall_mem_cons] at hnames
      exact (joined_foldl hnames.1 b.1.relations r).trans (ih hnames.2 _)

end Assembly

section Arguments

/-- The reference of an argument that refers to a task. -/
def Argument.reference? (a : Argument) : Option Reference :=
  (taskReference? a.tokens).map fun name => (a.node, a.relation, name)

/-- The remark on an argument that refers to no task. -/
def Argument.unreadable? (text : String) (a : Argument) : Option ScriptWarning :=
  (Script.unreadable? text (a.relation, a.tokens)).map (.body a.node.name)

variable {made : List (TaskItem × Node)} {built : List (Block × Node)}

/-- The arguments of the tasks refer to what the blocks are related to. -/
theorem filterMap_reference (h : List.Forall₂
      (fun made b => MakesBlock made.1 b.1 ∧ made.2 = b.2) made built) :
    (made.flatMap argumentsOf).filterMap Argument.reference? =
      built.flatMap fun b => b.1.relations.map (b.2, ·) := by
  induction h with
  | nil => rfl
  | @cons task b made built htask _ ih =>
      obtain ⟨hmakes, hnode⟩ := htask
      rw [List.flatMap_cons, List.filterMap_append, ih, List.flatMap_cons, hmakes.relations]
      congr 1
      simp [argumentsOf, TaskItem.references, List.filterMap_map, List.map_filterMap, hnode,
        Argument.reference?, reference?, Function.comp_def]

/-- The remarks on the arguments of the tasks are those on the bodies of the tasks. -/
theorem filterMap_unreadable (h : ∀ task ∈ made, Becomes task.1 task.2) (text : String) :
    (made.flatMap argumentsOf).filterMap (Argument.unreadable? text) =
      made.flatMap fun task => task.1.remarks text := by
  induction made with
  | nil => rfl
  | cons task made ih =>
      rw [List.forall_mem_cons] at h
      have hname : task.2.name = task.1.name := h.1
      rw [List.flatMap_cons, List.filterMap_append, ih h.2, List.flatMap_cons]
      congr 1
      simp [argumentsOf, TaskItem.remarks, List.filterMap_map, List.map_filterMap,
        Argument.unreadable?, hname, Function.comp_def]

/-- An argument refers to a task or is remarked on, and not both. -/
theorem reference_or_unreadable (text : String) (a : Argument) :
    a.reference?.isSome ≠ (a.unreadable? text).isSome := by
  cases h : taskReference? a.tokens <;>
    simp [Argument.reference?, Argument.unreadable?, Script.unreadable?, h]

end Arguments

section Accounts

/-- What is put together: each variable, each block and each relation of a block that became a node
comes to something in the graph or to a finding, and there is nothing else. -/
theorem assemble_sorts (found : Findings) :
    ∃ kept ignored built failed joined remarked last,
      Sorts (fun v v' => v = v')
        (fun (v : Variable) w => ∃ cause, w = ScriptWarning.variableIgnored v.name cause)
        found.vars kept ignored ∧
      Sorts (fun b n => ∃ id, n = b.toNode id)
        (fun (b : Block) (e : BlockError) => e.task = b.name ∧ e.line = b.line)
        found.blocks built failed ∧
      Sorts (JoinsNamed (assemble found).graph) (RemarkedNamed (assemble found).graph)
        (built.flatMap fun b => b.1.relations.map (b.2, ·)) joined remarked ∧
      (∀ w ∈ last, Other w) ∧
      assemble found = {
        graph := {
          nodes := built.map Prod.snd
          edges := joined.map Prod.snd
          vars := systemVariables ++ kept.map Prod.snd }
        errors := found.errors ++ failed.map Prod.snd
        warnings := found.warnings ++ ignored.map Prod.snd ++ remarked.map Prod.snd ++ last } := by
  obtain ⟨kept, ignored, hkept, hdeclare⟩ := declareVariables_sorts found.vars
    { graph := Graph.empty, errors := found.errors, warnings := found.warnings }
  generalize hdeclared : declareVariables found.vars
    { graph := Graph.empty, errors := found.errors, warnings := found.warnings } = r at hdeclare
  obtain ⟨failed, hbuilt, hadd⟩ := addNodes_sorts found.blocks found.ids r
  generalize hadded : addNodes found.blocks found.ids r = result at hbuilt hadd
  obtain ⟨r', built⟩ := result
  dsimp only at hbuilt hadd
  have hnames : ∀ b ∈ built, b.2.name = b.1.name := by
    intro b hb
    obtain ⟨id, hid⟩ := (hbuilt.left_of_mem b hb).2
    rw [hid]
    rfl
  obtain ⟨joined, remarked, hjoined, hfold⟩ := joined_blocks hnames r'
  have hassemble : ∃ last, (∀ w ∈ last, Other w) ∧ assemble found =
      r' ++ { graph := { edges := joined.map Prod.snd }, warnings := remarked.map Prod.snd } ++
        { graph := {}, warnings := last } := by
    rw [assemble]
    dsimp only
    rw [hdeclared, hadded]
    dsimp only
    rw [hfold]
    -- in the end a script without tasks is remarked on
    split_ifs
    · exact ⟨[.noTasks], List.forall_mem_singleton.2 .noTasks, by simp [reading_append]⟩
    · exact ⟨[], List.forall_mem_nil _, by simp [reading_append]⟩
  obtain ⟨last, hlast, heq⟩ := hassemble
  have hnodes : r'.graph.nodes = (assemble found).graph.nodes := by simp [heq, reading_append]
  refine ⟨kept, ignored, built, failed, joined, remarked, last, hkept, hbuilt,
    sorts_named_of_nodes hnodes hjoined, hlast, ?_⟩
  simp [heq, hadd, hdeclare, reading_append, Graph.empty]

/-- The tasks become nodes or errors when their blocks do. -/
theorem tasks_sorts {tasks : List TaskItem} {blocks : List (TaskItem × Block)}
    {errors : List (TaskItem × BlockError)} {built : List (Block × Node)}
    {failed : List (Block × BlockError)} (hblocks : Sorts MakesBlock FailsWith tasks blocks errors)
    (hnodes : Sorts (fun b n => ∃ id, n = b.toNode id)
      (fun (b : Block) (e : BlockError) => e.task = b.name ∧ e.line = b.line)
      (blocks.map Prod.snd) built failed) :
    ∃ made refused, Sorts Becomes FailsWith tasks made refused ∧
      List.Forall₂ (fun made b => MakesBlock made.1 b.1 ∧ made.2 = b.2) made built ∧
      (refused.map Prod.snd).Perm (errors.map Prod.snd ++ failed.map Prod.snd) := by
  obtain ⟨made, refused, hsorts, hmade, hperm⟩ := hblocks.trans hnodes
  refine ⟨made, refused, hsorts.imp ?_ ?_, hmade, hperm⟩
  · rintro item n ⟨b, hb, id, rfl⟩
    exact hb.name
  · rintro item e (hfails | ⟨b, hb, htask, hline⟩)
    · exact hfails
    · exact ⟨htask.trans hb.name, hline.trans hb.line⟩

/-- The arguments become edges or remarks when what they refer to does. -/
theorem arguments_sorts {g : Graph} {made : List (TaskItem × Node)} {built : List (Block × Node)}
    {joined : List (Reference × Edge)} {remarked : List (Reference × ScriptWarning)}
    (hmade : List.Forall₂ (fun made b => MakesBlock made.1 b.1 ∧ made.2 = b.2) made built)
    (hbecomes : ∀ task ∈ made, Becomes task.1 task.2)
    (h : Sorts (JoinsNamed g) (RemarkedNamed g)
      (built.flatMap fun b => b.1.relations.map (b.2, ·)) joined remarked) (text : String) :
    ∃ edges remarks, Sorts (Joins g) (RemarkedBy text g) (made.flatMap argumentsOf) edges remarks ∧
      edges.map Prod.snd = joined.map Prod.snd ∧
      (remarks.map Prod.snd).Perm
        (made.flatMap (fun task => task.1.remarks text) ++ remarked.map Prod.snd) := by
  obtain ⟨referring, unreadable, hsorts, hreferring, hunreadable⟩ :=
    sorts_of_values Argument.reference? (Argument.unreadable? text) (reference_or_unreadable text)
      (made.flatMap argumentsOf)
  rw [filterMap_reference hmade] at hreferring
  rw [filterMap_unreadable hbecomes] at hunreadable
  obtain ⟨edges, remarks, hall, hedges, hperm⟩ := hsorts.trans (hreferring ▸ h)
  refine ⟨edges, remarks, hall.imp ?_ ?_, map_snd_of_forall₂ hedges, hunreadable ▸ hperm⟩
  · rintro a e ⟨reference, hreference, other, hother, rfl⟩
    obtain ⟨name, hname, rfl⟩ := Option.map_eq_some_iff.1 hreference
    exact ⟨name, other, hname, hother, rfl⟩
  · rintro a w (hnone | ⟨reference, hreference, hremarked⟩)
    · obtain ⟨remark, hremark, rfl⟩ := Option.map_eq_some_iff.1 hnone
      rw [unreadable?] at hremark
      split_ifs at hremark with hunnamed
      cases hremark
      exact .unreadable (Option.isNone_iff_eq_none.1 hunnamed)
    · obtain ⟨name, hname, rfl⟩ := Option.map_eq_some_iff.1 hreference
      cases hremarked with
      | unknown hother => exact .unknown hname hother
      | refused hother => exact .refused hname hother

/-- The declarations become variables or remarks when their variables do. -/
theorem declarations_sorts {vars : List Variable} {kept : List (Variable × Variable)}
    {ignored : List (Variable × ScriptWarning)} (huser : ∀ v ∈ vars, v.isSystem = false)
    (h : Sorts (fun v v' => v = v')
      (fun (v : Variable) w => ∃ cause, w = ScriptWarning.variableIgnored v.name cause)
      vars kept ignored) :
    (∃ declared remarks,
      Sorts Declares IgnoredBy (vars.map fun v => (v.name, v.defaultValue)) declared remarks ∧
      declared.map Prod.snd = kept.map Prod.snd ∧ remarks.map Prod.snd = ignored.map Prod.snd) ∧
      ∀ v ∈ kept.map Prod.snd, v.isSystem = false := by
  constructor
  · exact ⟨_, _, h.map _ (fun v v' hsame => hsame ▸ rfl) fun v w hw => hw,
      by simp [List.map_map, Function.comp_def], by simp [List.map_map, Function.comp_def]⟩
  · intro v hv
    obtain ⟨pair, hpair, rfl⟩ := List.mem_map.1 hv
    obtain ⟨hmem, hsame⟩ := h.left_of_mem pair hpair
    rw [← hsame]
    exact huser _ hmem

/-- What is put together from what was recorded of the items accounts for all of them. -/
theorem account_of_recorded {faults : List ScriptWarning} (hfaults : ∀ w ∈ faults, Other w)
    (h : Recorded text items { ids, warnings := faults } found) :
    Nonempty (Account text items (assemble found)) := by
  obtain ⟨blocks, errors, hblocks, hfound, herrors⟩ := h.tasks
  obtain ⟨vars, hvars, hdeclared, huser⟩ := h.declarations
  obtain ⟨guards, hguards, hwarnings⟩ := h.remarks
  rw [List.nil_append] at hfound herrors hvars
  obtain ⟨kept, ignored, built, failed, joined, remarked, last, hkept, hbuilt, hjoined, hlast,
    heq⟩ := assemble_sorts found
  rw [hfound] at hbuilt
  rw [hvars] at hkept
  obtain ⟨made, refused, htasks, hmade, hrefused⟩ := tasks_sorts hblocks hbuilt
  obtain ⟨⟨declared, unused, hdeclarations, hkeeps, hignores⟩, hsystem⟩ :=
    declarations_sorts huser hkept
  obtain ⟨edges, remarks, harguments, hedges, hremarks⟩ :=
    arguments_sorts hmade (fun task htask => (htasks.left_of_mem task htask).2) hjoined text
  refine ⟨{
    made, failed := refused, kept := declared, ignored := unused, joined := edges
    remarked := remarks, others := faults ++ guards ++ last
    tasks := htasks, nodes := ?_, errors := ?_, declarations := hdeclared ▸ hdeclarations
    vars := ?_, arguments := harguments, edges := ?_, warnings := ?_, other := ?_ }⟩
  · rw [heq, map_snd_of_forall₂ hmade]
  · rw [heq, herrors]
    exact hrefused
  · rw [hkeeps]
    exact (userVariables_eq (by rw [heq]) hsystem).symm
  · rw [heq, hedges]
  · -- every remark stands as often on either side
    rw [heq, hignores]
    refine List.perm_iff_count.2 fun w => ?_
    have hcount := hwarnings.count_eq w
    have hbodies := (htasks.perm_flatMap (TaskItem.remarks text)).count_eq w
    have hremarks := hremarks.count_eq w
    simp only [List.count_append] at hcount hbodies hremarks ⊢
    omega
  · rw [List.forall_mem_append, List.forall_mem_append]
    refine ⟨⟨hfaults, fun w hw => ?_⟩, hlast⟩
    obtain ⟨task, raw, rfl⟩ := hguards w hw
    exact .guard task raw

/-- In every script that is read, whatever is recognized is recorded, and accounted for. -/
theorem script_accounted (h : readScript text ids = .ok r) :
    (∃ found, (recognized 0 none (scan text).tokens).foldlM (record text)
        { ids, warnings := (scan text).faults.map fun f => .lexical f.1 f.2 } = .ok found ∧
      r = assemble found) ∧
    Nonempty (Account text (recognized 0 none (scan text).tokens) r) := by
  obtain ⟨found, hfound, hr⟩ := bind_eq_ok_iff.1 h
  cases hr
  rw [readTokens_eq_record] at hfound
  refine ⟨⟨found, hfound, rfl⟩, account_of_recorded (fun w hw => ?_) (recorded_foldlM hfound)⟩
  obtain ⟨fault, -, rfl⟩ := List.mem_map.1 hw
  exact .lexical fault.1 fault.2

/-- A script that declares a variable twice, registers a task twice, and relates a task to another
and to none. -/
def repeatedScript : String :=
  "val v: String by project.extra \x7b \"1\" \x7d\n" ++
    "val v: String by project.extra \x7b \"2\" \x7d\n" ++
    "tasks.register(\"a\") \x7b dependsOn(\"b\", \"c\") \x7d\n" ++
    "tasks.register(\"b\") \x7b \x7d\n" ++
    "tasks.register(\"b\") \x7b \x7d\n"

/-- Of the five items, two become nodes, one an error, one a variable and one a remark, and of the
two arguments one becomes an edge and one a remark. -/
theorem script_accounted_repeated :
    ∃ r, readScript repeatedScript {} = .ok r ∧
      (recognized 0 none (scan repeatedScript).tokens).length = 5 ∧
      (r.graph.nodes.length, r.errors.length, r.graph.userVariables.length, r.graph.edges.length,
        r.warnings.length) = (2, 1, 1, 1, 2) ∧
      Nonempty (Account repeatedScript (recognized 0 none (scan repeatedScript).tokens) r) := by
  have hitems : (recognized 0 none (scan repeatedScript).tokens).length = 5 := by decide +kernel
  have hcounts : (readScript repeatedScript {}).map (fun r =>
      (r.graph.nodes.length, r.errors.length, r.graph.userVariables.length, r.graph.edges.length,
        r.warnings.length)) = .ok (2, 1, 1, 1, 2) := by decide +kernel
  cases hread : readScript repeatedScript {} with
  | error stop =>
      rw [hread] at hcounts
      cases hcounts
  | ok r =>
      rw [hread] at hcounts
      exact ⟨r, rfl, hitems, Except.ok.inj hcounts, (script_accounted hread).2⟩

end Accounts

end BuildGraph.Script
