import BuildGraph.Proofs.Script.Rebuilt

/-!
# What is found in the script of a graph

A script of which the comments are harmless is read to what is put together from its variables and
its blocks, where it does not count on which lines these stand. `readScript_eq` is the statement.
-/

namespace BuildGraph.Script

open BuildGraph.Text BuildGraph.Number

variable {g : Graph} {options : ExportOptions} {registered : List String} {n : Node}

section Names

/-- The identifier of a task can be referred to. -/
theorem referable_identifier (h : NodesWellFormed g.nodes) (hn : n ∈ g.nodes) :
    Referable n.identifier := by
  constructor
  · intro hcolon
    have hmem : ':' ∈ identifierChars n.name.toList := by
      refine List.mem_of_mem_head? ?_
      rwa [Node.identifier, toIdentifier, String.toList_ofList] at hcolon
    exact (isIdentifierChar_facts (isIdentifierChar_of_mem_identifier_chars hmem)).2 rfl
  · intro hempty
    have hblank : isBlankText n.identifier = false := not_blank_to_identifier (h.named n hn)
    rw [hempty] at hblank
    cases hblank

/-- A task that a block names has its own block. -/
theorem mem_writtenRelations (h : g.WellFormed) {r : Relation × String}
    (hr : r ∈ writtenRelations g (registeredOf g options) n) : ∃ e ∈ g.edges, owner e = n.id ∧
      ∃ m ∈ emittedNodes g options, partner e = m.id ∧ r = (e.relation, m.identifier) := by
  rw [writtenRelations_eq] at hr
  obtain ⟨e, he, rfl⟩ := List.mem_map.1 hr
  obtain ⟨hedge, howner, hpartner⟩ := mem_blockEdges.1 he
  obtain ⟨m, hm, -, hid⟩ := (mem_registeredOf h.nodes.ids).1 hpartner
  refine ⟨e, hedge, howner, m, hm, hid.symm, ?_⟩
  rw [← hid, identifierOf_eq h.nodes.ids ((mem_emittedNodes h.nodes.ids).1 hm).1]

/-- The tasks of a script have distinct identifiers. -/
theorem emittedNodes_identifiers_nodup (h : g.WellFormed) :
    ((emittedNodes g options).map Node.identifier).Nodup := by
  refine List.Nodup.map_on ?_ (List.Nodup.of_map _ (emittedNodes_ids_nodup h.nodes.ids))
  intro n hn m hm heq
  exact List.inj_on_of_nodup_map h.nodes.identifiers ((mem_emittedNodes h.nodes.ids).1 hn).1
    ((mem_emittedNodes h.nodes.ids).1 hm).1 heq

end Names

section Variables

/-- The variables that a script declares are user variables. -/
theorem declaredVariables_sublist (options : ExportOptions) (vars : List Variable) :
    (declaredVariables options vars).Sublist vars := by
  rw [declaredVariables]
  split
  · exact List.nil_sublist _
  · exact List.Sublist.refl _

/-- The variables that a script declares have distinct names. -/
theorem declared_names_nodup (h : VariablesWellFormed g.vars) :
    ((declaredVariables options g.userVariables).map Variable.name).Nodup :=
  h.names.sublist (((declaredVariables_sublist options _).trans List.filter_sublist).map _)

/-- Behind the built-in variables of a graph stand those of the user. -/
theorem userVariables_eq {vars : List Variable} (hvars : g.vars = systemVariables ++ vars)
    (huser : ∀ v ∈ vars, v.isSystem = false) : g.userVariables = vars := by
  have hsystem : systemVariables.filter (!·.isSystem) = [] := rfl
  rw [Graph.userVariables, hvars, List.filter_append, hsystem, List.nil_append]
  exact List.filter_eq_self.2 fun v hv => by simp [huser v hv]

/-- No task has the id of a variable. -/
theorem taskId_ne_variableId (task name : String) : taskId task ≠ variableId name := by
  intro heq
  have hhead := congrArg (fun s : String => s.toList.head?) heq
  simp [variableId, taskId] at hhead

end Variables

section Blocks

/-- A block keeps its name, its line and its relations when a request is told from a command. -/
theorem recoverRequest_keeps {b read : Block} (h : recoverRequest b = .ok read) :
    read.name = b.name ∧ read.line = b.line ∧ read.relations = b.relations := by
  rw [recoverRequest] at h
  split at h
  · split at h
    · obtain ⟨request, -, h⟩ := bind_eq_ok_iff.1 h
      cases request <;> cases h <;> exact ⟨rfl, rfl, rfl⟩
    · cases h
      exact ⟨rfl, rfl, rfl⟩
  · cases h
    exact ⟨rfl, rfl, rfl⟩

theorem recoverRequest_name {b read : Block} (h : recoverRequest b = .ok read) :
    read.name = b.name :=
  (recoverRequest_keeps h).1

/-- A task is read to a block of its identifier. -/
theorem readTask_name {b : Block} (h : readTask g registered options n = .ok b) :
    b.name = n.identifier := by
  rw [readTask] at h
  split at h
  · cases h
    rfl
  · obtain ⟨settings, -, h⟩ := bind_eq_ok_iff.1 h
    obtain ⟨minutes, -, h⟩ := bind_eq_ok_iff.1 h
    exact recoverRequest_name h

/-- The blocks of tasks have the identifiers of the tasks. -/
theorem mapM_readTask_names {nodes : List Node} {blocks : List Block}
    (h : nodes.mapM (readTask g registered options) = .ok blocks) :
    blocks.map Block.name = nodes.map Node.identifier := by
  have hreads := mapM_eq_ok_iff.1 h
  clear h
  induction hreads with
  | nil => rfl
  | cons hread _ ih => rw [List.map_cons, List.map_cons, readTask_name hread, ih]

end Blocks

section Lines

theorem declareVariables_nodes (vars : List Variable) (r : ScriptReading) :
    (declareVariables vars r).graph.nodes = r.graph.nodes := by
  induction vars generalizing r with
  | nil => rfl
  | cons v vars ih =>
      rw [declareVariables]
      split
      · next graph hadd =>
          rw [ih, (Graph.add_variable_eq_ok_iff.1 hadd).2.2.2.2]
      · exact ih _

/-- On which lines blocks stand does not show when they have distinct identifiers for names. -/
theorem assemble_unlined {f : Findings}
    (hnamed : ∀ b ∈ f.blocks, toIdentifier b.name = b.name ∧ isBlankText b.name = false)
    (hfresh : ∀ b ∈ f.blocks, taskId b.name ∉ f.ids.issued)
    (hnames : (f.blocks.map Block.name).Nodup) : assemble f.unlined = assemble f := by
  have hempty : (declareVariables f.vars
      { graph := Graph.empty, errors := f.errors, warnings := f.warnings }).graph.nodes = [] :=
    declareVariables_nodes f.vars _
  generalize hdeclared : declareVariables f.vars
    { graph := Graph.empty, errors := f.errors, warnings := f.warnings } = r at hempty
  have hfree : ∀ m ∈ r.graph.nodes, m.id = taskId m.identifier := by simp [hempty]
  have hadded := addNodes_eq hnamed hfresh hfree (by simpa [hempty] using hnames)
  have hunlined := @addNodes_eq f.ids r f.unlined.blocks (by simpa [Findings.unlined] using hnamed)
    (by simpa [Findings.unlined] using hfresh) hfree
    (by simpa [Findings.unlined, hempty, Function.comp_def] using hnames)
  have hrelated : ∀ start : ScriptReading,
      (f.unlined.blocks.map fun b => (b, blockNode b)).foldl
          (fun r b => b.1.relations.foldl (addRelation b.1 b.2) r) start =
        (f.blocks.map fun b => (b, blockNode b)).foldl
          (fun r b => b.1.relations.foldl (addRelation b.1 b.2) r) start := by
    intro start
    simp only [Findings.unlined, List.foldl_map]
    rfl
  have hsame : f.unlined.blocks.map blockNode = f.blocks.map blockNode := by
    simp only [Findings.unlined, List.map_map]
    rfl
  rw [assemble, assemble]
  simp only [show f.unlined.vars = f.vars from rfl, show f.unlined.errors = f.errors from rfl,
    show f.unlined.warnings = f.warnings from rfl, show f.unlined.ids = f.ids from rfl, hdeclared,
    hadded, hunlined, hrelated, hsame]

end Lines

section Reading

/-- The declarations that are not torn have distinct names. -/
theorem kept_names_nodup (h : VariablesWellFormed g.vars) :
    ((keptVariables (declaredVariables options g.userVariables)).map Variable.name).Nodup :=
  (declared_names_nodup h).sublist (List.filter_sublist.map _)

/-- What is found in a script are the blocks that its tasks are read to, and no id of a task has
been issued yet. -/
theorem blocks_of_foundIn (h : VariablesWellFormed g.vars) {f : Findings}
    (hfound : foundIn g options = .ok f) :
    (emittedNodes g options).mapM (readTask g (registeredOf g options) options) = .ok f.blocks ∧
      ∀ name, taskId name ∉ f.ids.issued := by
  rw [foundIn, foldl_withVariable (by simp) (kept_names_nodup h)] at hfound
  cases hblocks : (emittedNodes g options).mapM (readTask g (registeredOf g options) options) with
  | error stop => rw [hblocks] at hfound; cases hfound
  | ok blocks =>
      rw [hblocks] at hfound
      cases hfound
      refine ⟨rfl, fun name hmem => ?_⟩
      simp only [List.append_nil, List.mem_reverse, List.mem_map] at hmem
      obtain ⟨v, -, heq⟩ := hmem
      exact taskId_ne_variableId name v.name heq.symm

/-- What stops the search of a script stops the reading of its tasks. -/
theorem tasks_of_foundIn_eq_error {stop : IntegerStop} (hfound : foundIn g options = .error stop) :
    (emittedNodes g options).mapM (readTask g (registeredOf g options) options) = .error stop := by
  rw [foundIn] at hfound
  cases hread : (emittedNodes g options).mapM (readTask g (registeredOf g options) options) with
  | error cause =>
      rw [hread] at hfound
      cases hfound
      rfl
  | ok blocks =>
      rw [hread] at hfound
      cases hfound

/-- Blocks with the identifiers of the tasks of a script are named as nodes are, each in its own
way. -/
theorem named_of_names (h : g.WellFormed) {blocks : List Block}
    (hnames : blocks.map Block.name = (emittedNodes g options).map Node.identifier) :
    (∀ b ∈ blocks, toIdentifier b.name = b.name ∧ isBlankText b.name = false) ∧
      (blocks.map Block.name).Nodup := by
  refine ⟨fun b hb => ?_, hnames ▸ emittedNodes_identifiers_nodup h⟩
  have hmem := List.mem_map_of_mem (f := Block.name) hb
  rw [hnames] at hmem
  obtain ⟨n, hn, heq⟩ := List.mem_map.1 hmem
  rw [← heq]
  exact ⟨to_identifier_to_identifier n.name,
    not_blank_to_identifier (h.nodes.named n ((mem_emittedNodes h.nodes.ids).1 hn).1)⟩

/-- Without a name for the project, the comments are harmless when no description opens one. -/
theorem harmless_of_nodes (h : g.WellFormed) (hproject : options.projectName = none)
    (hopen : ∀ n ∈ g.nodes, ∀ d ∈ n.description, ¬ "/*".toList <:+: d.toList) :
    Harmless g options where
  descriptions _ n hn := hopen n ((mem_emittedNodes h.nodes.ids).1 hn).1
  project _ name hname := by simp [hproject] at hname

/-- The script of a graph is read to what is put together from its variables and its blocks, or an
integer in it stops the reading, however its lines end. -/
theorem readScript_respell_eq (h : g.WellFormed) (e : LineEnd) (now : Timestamp)
    (hharmless : Harmless g options) :
    readScript (e.respell (g.script options now)) {} = (foundIn g options).map assemble := by
  have hrelations : ∀ n ∈ emittedNodes g options,
      ∀ r ∈ writtenRelations g (registeredOf g options) n, Referable r.2 := by
    intro n hn r hr
    obtain ⟨e, -, -, m, hm, -, rfl⟩ := mem_writtenRelations h hr
    exact referable_identifier h.nodes ((mem_emittedNodes h.nodes.ids).1 hm).1
  obtain ⟨hfaults, hread⟩ := read_script e now hharmless
    (fun v hv => h.vars.named v (List.mem_of_mem_filter hv)) hrelations
  simp only [readScript, hfaults, List.map_nil]
  generalize e.respell (g.script options now) = text at hread
  cases hfound : readTokens text 0 none { ids := {} } (scan text).tokens with
  | error stop =>
      rw [hfound] at hread
      rw [← hread]
      rfl
  | ok f =>
      rw [hfound] at hread
      obtain ⟨hblocks, hfresh⟩ := blocks_of_foundIn h.vars hread.symm
      have hidentifiers : f.blocks.map Block.name =
          (emittedNodes g options).map Node.identifier := by
        rw [← mapM_readTask_names hblocks]
        simp [Findings.unlined]
      obtain ⟨hnamed, hnames⟩ := named_of_names h hidentifiers
      have hassembled : assemble f.unlined = assemble f :=
        assemble_unlined hnamed (fun b _ => hfresh b.name) hnames
      rw [← hread]
      exact congrArg Except.ok hassembled.symm

/-- The script of a graph is read to what is put together from its variables and its blocks, or an
integer in it stops the reading. -/
theorem readScript_eq (h : g.WellFormed) (now : Timestamp) (hharmless : Harmless g options) :
    readScript (g.script options now) {} = (foundIn g options).map assemble := by
  rw [← readScript_respell_eq h .feed now hharmless, LineEnd.respell_feed]

end Reading

end BuildGraph.Script
