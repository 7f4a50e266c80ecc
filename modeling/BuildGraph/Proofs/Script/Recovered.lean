import BuildGraph.Proofs.Script.Found

/-!
# Scripts that are read without remarks

The script of a well-formed graph is read to the graph that `rebuilt` gives, without errors. Nothing
is remarked but that there are no tasks, when there are none. `Portable` says what this needs of the
graph, and `read_script_eq` is the statement.
-/

open Relation

namespace BuildGraph.Script

open BuildGraph.Text BuildGraph.Number

variable {g : Graph} {options : ExportOptions} {n : Node} {blocks : List Block}

/-- What a script can carry of a graph: its user variables have plain names, no other variable is
built in, its integers can be given, and commands are told from requests, which are read back to
requests of the same command. -/
structure Portable (g : Graph) : Prop where
  variableNames : ∀ v ∈ g.userVariables, ∀ c ∈ v.name.toList, isIdentifierChar c = true
  builtIn : ∀ v ∈ g.vars, v.isSystem = true → v.name ∈ systemVariables.map Variable.name
  steps : ∀ n ∈ g.nodes, PrintableStep n.step
  timeouts : ∀ n ∈ g.nodes, Printable n.timeoutMinutes
  commands : ∀ n ∈ g.nodes, ∀ c, n.step = .exec c → ¬ RunsCurl c
  requests : ∀ n ∈ g.nodes, ∀ c, n.step = .httpRequest c → ∃ read,
    HttpConfig.ofCurl? c.curlArguments = .ok (some read) ∧ read.curlArguments = c.curlArguments

section Names

/-- A script can hold the node: its integers can be given, and its step is told from others. -/
structure Scriptable (n : Node) : Prop where
  step : PrintableStep n.step
  recoverable : Recoverable n.step
  timeout : Printable n.timeoutMinutes

theorem Portable.scriptable (h : Portable g) (hn : n ∈ g.nodes) : Scriptable n where
  step := h.steps n hn
  timeout := h.timeouts n hn
  recoverable := by
    cases hstep : n.step with
    | exec c => exact h.commands n hn c hstep
    | httpRequest c =>
        obtain ⟨read, hread, -⟩ := h.requests n hn c hstep
        exact ⟨read, hread⟩
    | _ => trivial

/-- The name of a variable is an identifier when all its characters may stand in one. -/
theorem isIdentifier_of_isVariableName {name : String} (h : isVariableName name = true)
    (hchars : ∀ c ∈ name.toList, isIdentifierChar c = true) : isIdentifier name.toList = true := by
  rw [isVariableName] at h
  cases hname : name.toList with
  | nil =>
      rw [hname] at h
      cases h
  | cons c rest =>
      rw [hname] at h hchars
      rw [isIdentifierLine, Bool.and_eq_true] at h
      rw [isIdentifier, Bool.and_eq_true]
      exact ⟨h.1, List.all_eq_true.2 fun x hx => hchars x (List.mem_cons_of_mem _ hx)⟩

/-- No task has a relation to itself. -/
theorem owner_ne_partner (h : g.WellFormed) {e : Edge} (he : e ∈ g.edges) :
    owner e ≠ partner e := by
  have hdistinct := (h.edges.joined e he).1
  rw [owner, partner]
  split
  · exact hdistinct
  · exact hdistinct.symm

end Names

section Blocks

/-- An integer that can be given in a script is read back. -/
theorem readBack_of_printable {value : Option Int} (h : Printable value) :
    readBack value = .ok value := by
  cases value with
  | none => rfl
  | some k =>
      obtain ⟨hk, hlength⟩ := h k rfl
      obtain ⟨m, rfl⟩ := Int.eq_ofNat_of_zero_le hk
      exact readBack_of_ok (requireInteger_toString hlength)

theorem readSettings_of_printable {step : Step} (h : PrintableStep step) :
    readSettings step = .ok (stepSettings step) := by
  cases step with
  | test c =>
      rw [readSettings, readBack_of_printable h.1, readBack_of_printable h.2]
      simp [stepSettings, bind, Except.bind, pure, Except.pure]
  | _ => rfl

/-- What a script can hold of a task is read to the block that it keeps of the task. -/
theorem readTask_eq {registered : List String} (h : Scriptable n) :
    readTask g registered options n = .ok (foundBlock g registered options n) := by
  have hminutes : Printable (keptMinutes n.timeoutMinutes) := fun k hk =>
    h.timeout k (Option.filter_eq_some_iff.1 hk).1
  rw [readTask, foundBlock]
  split
  · rfl
  · rw [readTaskBlock, readSettings_of_printable h.step, readBack_of_printable hminutes]
    exact recoverRequest_readBlockOf h.recoverable 0

theorem foundBlocks_names :
    (foundBlocks g options).map Block.name = (emittedNodes g options).map Node.identifier := by
  rw [foundBlocks, List.map_map]
  exact List.map_congr_left fun n _ => foundBlock_name

/-- The relations of a block are those that are written for the task, if they are written. -/
theorem mem_foundBlock_relations {registered : List String} {r : Relation × String}
    (hr : r ∈ (foundBlock g registered options n).relations) :
    r ∈ writtenRelations g registered n := by
  rw [foundBlock] at hr
  split at hr
  · cases hr
  · exact hr

end Blocks

section Variables

/-- A user variable has no name of a built-in one. -/
theorem name_ne_of_mem_userVariables (h : VariablesWellFormed g.vars) {v s : Variable}
    (hv : v ∈ g.userVariables) (hs : s ∈ systemVariables) : s.name ≠ v.name := by
  intro heq
  obtain ⟨hmem, huser⟩ := List.mem_filter.1 hv
  obtain ⟨value, hvalue⟩ := h.builtIn s hs
  have hsystem : s.isSystem = true := isSystem_of_mem_system_variables s hs
  have hsame := List.inj_on_of_nodup_map h.names hvalue hmem heq
  rw [← hsame] at huser
  simp [hsystem] at huser

/-- Every value fits a variable of texts. -/
theorem text_fault (value : String) : ValueType.string.fault? value = none := by
  by_cases h : value = "" <;> simp [ValueType.fault?, h]

theorem system_ids : ∀ s ∈ systemVariables, s.id.toList.head? = some 's' := by
  decide

/-- Names that are distinct make distinct ids, and no built-in variable has one of them. -/
theorem variableIds_nodup {vars : List Variable} (h : (vars.map Variable.name).Nodup) :
    ((systemVariables ++ vars.map declared).map Variable.id).Nodup := by
  have hids : ((vars.map declared).map Variable.id).Nodup := by
    rw [List.map_map]
    refine List.Nodup.of_map (fun id => id) ?_
    rw [List.map_id']
    refine List.Nodup.map_on ?_ (List.Nodup.of_map _ h)
    intro v hv w hw heq
    have hname : v.name = w.name := by simpa [declared, variableId] using heq
    exact List.inj_on_of_nodup_map h hv hw hname
  rw [List.map_append]
  refine List.Nodup.append (by decide) hids ?_
  rintro id hsystem hv
  obtain ⟨s, hs, rfl⟩ := List.mem_map.1 hsystem
  rw [List.map_map] at hv
  obtain ⟨v, -, heq⟩ := List.mem_map.1 hv
  have hhead := system_ids s hs
  rw [← heq] at hhead
  simp [declared, variableId] at hhead

theorem variableNames_nodup (h : VariablesWellFormed g.vars) :
    ((systemVariables ++ (declaredVariables options g.userVariables).map declared).map
      Variable.name).Nodup := by
  rw [List.map_append, List.map_map]
  refine List.Nodup.append (by decide) (declared_names_nodup h) ?_
  rintro name hsystem hdeclared
  obtain ⟨s, hs, rfl⟩ := List.mem_map.1 hsystem
  obtain ⟨v, hv, heq⟩ := List.mem_map.1 hdeclared
  exact name_ne_of_mem_userVariables h ((declaredVariables_sublist options _).subset hv) hs heq.symm

end Variables

section Reading

/-- Nothing speaks against what is found in the script of a graph. -/
theorem sound_found (h : g.WellFormed) :
    Sound ((declaredVariables options g.userVariables).map declared) (foundBlocks g options) where
  named := by
    intro v hv
    obtain ⟨w, hw, rfl⟩ := List.mem_map.1 hv
    have hmem : w ∈ g.vars :=
      List.mem_of_mem_filter ((declaredVariables_sublist options _).subset hw)
    exact ⟨h.vars.named w hmem, text_fault _, fun value hvalue => by cases hvalue⟩
  variableNames := variableNames_nodup h.vars
  variableIds := variableIds_nodup (declared_names_nodup h.vars)
  taskNames := by
    intro b hb
    obtain ⟨n, hn, rfl⟩ := List.mem_map.1 hb
    rw [foundBlock_name]
    have hnamed := h.nodes.named n ((mem_emittedNodes h.nodes.ids).1 hn).1
    exact ⟨to_identifier_to_identifier n.name, not_blank_to_identifier hnamed⟩
  names := by
    rw [foundBlocks_names]
    exact emittedNodes_identifiers_nodup h
  relations := by
    intro b hb r hr
    obtain ⟨n, hn, rfl⟩ := List.mem_map.1 hb
    obtain ⟨e, he, howner, m, hm, hpartner, rfl⟩ :=
      mem_writtenRelations h (mem_foundBlock_relations hr)
    rw [foundBlocks_names, foundBlock_name]
    refine ⟨List.mem_map_of_mem hm, fun heq => ?_⟩
    have hsame := List.inj_on_of_nodup_map h.nodes.identifiers ((mem_emittedNodes h.nodes.ids).1 hm).1
      ((mem_emittedNodes h.nodes.ids).1 hn).1 heq
    exact owner_ne_partner h he (by rw [howner, hpartner, hsame])
  edges := by
    change (rebuilt g options).edges.Nodup
    rw [rebuilt_edges h]
    refine List.Nodup.map_on ?_ (keptEdges_nodup h)
    intro e he e' he' heq
    exact renamed_injective h ((mem_keptEdges h).1 he).1 ((mem_keptEdges h).1 he').1 heq
  acyclic := acyclic_rebuilt h

/-- What is found in the script of a portable graph are its variables and the blocks that a script
keeps. -/
theorem foundIn_eq (h : g.WellFormed) (hportable : Portable g) : foundIn g options = .ok {
    vars := (declaredVariables options g.userVariables).map declared
    blocks := foundBlocks g options
    ids := { issued := ((declaredVariables options g.userVariables).map fun v =>
      variableId v.name).reverse } } := by
  have hkept : keptVariables (declaredVariables options g.userVariables) =
      declaredVariables options g.userVariables := by
    refine List.filter_eq_self.2 fun v hv => ?_
    have huser := (declaredVariables_sublist options _).subset hv
    exact isIdentifier_of_isVariableName (h.vars.named v (List.mem_of_mem_filter huser))
      (hportable.variableNames v huser)
  have hblocks : (emittedNodes g options).mapM (readTask g (registeredOf g options) options) =
      .ok (foundBlocks g options) := by
    rw [foundBlocks]
    refine mapM_eq_ok_iff.2 (List.forall₂_map_right_iff.2 (List.forall₂_same.2 fun n hn => ?_))
    exact readTask_eq (hportable.scriptable ((mem_emittedNodes h.nodes.ids).1 hn).1)
  rw [foundIn, hkept, foldl_withVariable (by simp) (declared_names_nodup h.vars), hblocks]
  simp [Except.map]

/-- The script of a graph is read without errors to the graph that is read back. -/
theorem read_script_eq (h : g.WellFormed) (hportable : Portable g) (now : Timestamp)
    (hdescriptions : options.includeDescriptions = false) (hproject : options.projectName = none) :
    readScript (g.script options now) {} = .ok {
      graph := rebuilt g options
      warnings := if (emittedNodes g options).isEmpty then [.noTasks] else [] } := by
  have hharmless : Harmless g options :=
    ⟨fun hincluded => by simp [hdescriptions] at hincluded, fun _ => by simp [hproject]⟩
  have hfresh : ∀ b ∈ foundBlocks g options, taskId b.name ∉
      ((declaredVariables options g.userVariables).map fun v => variableId v.name).reverse := by
    intro b _ hmem
    rw [List.mem_reverse, List.mem_map] at hmem
    obtain ⟨v, -, heq⟩ := hmem
    exact taskId_ne_variableId b.name v.name heq.symm
  have hassembled := @assemble_eq { issued :=
    ((declaredVariables options g.userVariables).map fun v => variableId v.name).reverse }
    _ _ (sound_found h) hfresh
  have hempty : (foundBlocks g options).isEmpty = (emittedNodes g options).isEmpty :=
    List.isEmpty_map
  rw [hempty] at hassembled
  rw [readScript_eq h now hharmless, foundIn_eq h hportable]
  exact congrArg Except.ok hassembled

end Reading

end BuildGraph.Script
