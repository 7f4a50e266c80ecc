import BuildGraph.Proofs.Script.Recovered
import BuildGraph.Proofs.Script.Reordered

/-!
# Scripts that are written again

The script of a graph that is read back is the script of the graph: the tasks come in the same
order, what a script does not keep of a task is not written, and the blocks name their relations in
the same order. `script_fixpoint` says so of every graph that changes lead to, as far as a script
can carry it.
-/

namespace BuildGraph.Script

variable {g : Graph} {options : ExportOptions} {n : Node} {vars vars' : List Variable}
  {format : VariableFormat}

section Steps

/-- No line is written for an empty text. -/
@[simp]
theorem optionalLine_presentText (write : String → String) (value : Option String) :
    optionalLine write (presentText value) = optionalLine write value := by
  cases value with
  | none => rfl
  | some s => by_cases h : s = "" <;> simp [presentText, optionalLine, h, Option.filter]

/-- The lines of a step are those of the step that is kept. -/
theorem stepLines_keptStep (comments : Bool) {step : Step}
    (h : ∀ c, step = .httpRequest c → ∃ read,
      HttpConfig.ofCurl? c.curlArguments = .ok (some read) ∧
        read.curlArguments = c.curlArguments) :
    stepLines comments (keptStep step) = stepLines comments step := by
  cases step with
  | httpRequest c =>
      obtain ⟨read, hread, harguments⟩ := h c rfl
      simp only [keptStep, hread, stepLines, httpLines, harguments]
  | _ =>
      simp [keptStep, stepLines, execLines, archiveLines, javaCompileLines, compilerLines]

/-- No line is written for a limit of zero. -/
theorem minutesLine_keptMinutes (minutes : Option Int) :
    minutesLine (keptMinutes minutes) = minutesLine minutes := by
  cases minutes with
  | none => rfl
  | some m => by_cases h : m = 0 <;> simp [keptMinutes, minutesLine, h, Option.filter]

end Steps

section Guards

/-- Variables of the same names have the same defaults. -/
def SameDefaults (format : VariableFormat) (vars vars' : List Variable) : Prop :=
  format = .properties → ∀ name, writtenDefault vars' name = writtenDefault vars name

theorem operandText_keptOperand (h : SameDefaults format vars vars') (o : Operand) :
    operandText vars' format (keptOperand vars format o) = operandText vars format o := by
  obtain ⟨source, value⟩ := o
  cases source with
  | «variable» =>
      cases format with
      | inline => rfl
      | properties =>
          have hdefault := h rfl value
          simp only [writtenDefault] at hdefault
          simp only [keptOperand, operandText, hdefault]
  | _ => rfl

/-- A test of one operand does not write the other. -/
theorem comparisonText_of_isUnary {operator : Operator} (h : operator.isUnary = true)
    (left right right' : String) :
    comparisonText operator left right = comparisonText operator left right' := by
  cases operator with
  | isEmpty | isNotEmpty | isTrue | isFalse => rfl
  | _ => cases h

/-- The text of a condition is that of the condition that is kept. -/
theorem conditionText_keptCondition (h : SameDefaults format vars vars') (c : Condition) :
    conditionText vars' format (keptCondition vars format c) = conditionText vars format c := by
  rw [conditionText, conditionText, keptCondition, operandText_keptOperand h]
  by_cases hunary : c.operator.isUnary = true
  · exact comparisonText_of_isUnary hunary _ _ _
  · rw [if_neg hunary, operandText_keptOperand h]

/-- How conditions are joined shows only where there are several. -/
theorem guardExpression_keptGuard (h : SameDefaults format vars vars') (c : Guard) :
    guardExpression vars' format (keptGuard vars format c) = guardExpression vars format c := by
  have hparts : (c.conditions.map (keptCondition vars format)).map (conditionText vars' format) =
      c.conditions.map (conditionText vars format) := by
    rw [List.map_map]
    exact List.map_congr_left fun c _ => conditionText_keptCondition h c
  rw [guardExpression, guardExpression, keptGuard, hparts]
  by_cases hone : c.conditions.length = 1
  · obtain ⟨only, honly⟩ := List.length_eq_one_iff.1 hone
    simp only [honly, List.map_cons, List.map_nil]
  · rw [if_neg hone]

theorem guardStatement_keptGuard (h : SameDefaults format vars vars') (c : Guard) :
    guardStatement? vars' format (keptGuard vars format c) = guardStatement? vars format c := by
  have hempty : (keptGuard vars format c).conditions.isEmpty = c.conditions.isEmpty := by
    rw [keptGuard, List.isEmpty_map]
  simp only [guardStatement?, hempty, guardExpression_keptGuard h]

theorem condition_keptCondition (h : SameDefaults format vars vars') (condition : Option Guard) :
    (keptCondition? vars format condition).bind (guardStatement? vars' format) =
      condition.bind (guardStatement? vars format) := by
  cases condition with
  | none => rw [keptCondition?, Option.bind_none, Option.bind_none, Option.bind_none]
  | some c =>
      rw [keptCondition?, Option.bind_some, Option.bind_some]
      by_cases hempty : c.conditions.isEmpty = true
      · rw [if_pos hempty, Option.bind_none, guardStatement?, if_pos hempty]
      · rw [if_neg hempty, Option.bind_some, guardStatement_keptGuard h]

end Guards

section Relations

/-- What is kept of the edges of a task are the edges that its block names. -/
theorem filter_owner_keptEdges (h : g.WellFormed) (hn : n ∈ emittedNodes g options)
    (hstub : isStub options n = false) :
    (keptEdges g options).filter (fun e => owner e == n.id) =
      blockEdges g (registeredOf g options) n := by
  let named (m : Node) : List Edge :=
    if isStub options m then [] else blockEdges g (registeredOf g options) m
  have howner : ∀ m, ∀ e ∈ named m, owner e = m.id := by
    intro m e he
    simp only [named] at he
    split at he
    · cases he
    · exact (mem_blockEdges.1 he).2.1
  have hother : ∀ nodes : List Node, (∀ m ∈ nodes, m.id ≠ n.id) →
      (nodes.flatMap named).filter (fun e => owner e == n.id) = [] := by
    intro nodes hnodes
    refine List.filter_eq_nil_iff.2 fun e he => ?_
    obtain ⟨m, hm, he⟩ := List.mem_flatMap.1 he
    rw [howner m e he]
    simpa using hnodes m hm
  obtain ⟨front, back, hsplit⟩ := List.mem_iff_append.1 hn
  have hids : ((emittedNodes g options).map Node.id).Nodup := emittedNodes_ids_nodup h.nodes.ids
  rw [hsplit, List.map_append, List.map_cons, List.nodup_middle, List.nodup_cons, ← List.map_append]
    at hids
  have hne : ∀ m ∈ front ++ back, m.id ≠ n.id := fun m hm heq =>
    hids.1 (heq ▸ List.mem_map_of_mem hm)
  have hself : (named n).filter (fun e => owner e == n.id) = named n :=
    List.filter_eq_self.2 fun e he => by simpa using howner n e he
  change ((emittedNodes g options).flatMap named).filter _ = _
  rw [hsplit, List.flatMap_append, List.flatMap_cons, List.filter_append, List.filter_append, hself,
    hother front fun m hm => hne m (List.mem_append_left _ hm),
    hother back fun m hm => hne m (List.mem_append_right _ hm), List.nil_append, List.append_nil]
  simp only [named, hstub, Bool.false_eq_true, if_false]

/-- The edges of a node to registered ones, before they are put in the order of a block. -/
def ownEdges (edges : List Edge) (registered : List String) (id : String) : List Edge :=
  edges.filter fun e => owner e == id && registered.contains (partner e)

/-- A block names what finishes a task last. -/
theorem blockEdges_eq_filter (g : Graph) (registered : List String) (n : Node) :
    blockEdges g registered n =
      (ownEdges g.edges registered n.id).filter (fun e => e.relation != .finalizedBy) ++
        (ownEdges g.edges registered n.id).filter fun e => !(e.relation != .finalizedBy) := by
  rw [blockEdges, Graph.incoming, Graph.outgoing, ownEdges, List.filter_filter, List.filter_filter,
    List.filter_filter, List.filter_filter]
  congr 1 <;> refine List.filter_congr fun e _ => ?_ <;> rw [Bool.eq_iff_iff] <;>
    by_cases hfinal : e.relation = .finalizedBy
  · simp [hfinal]
  · simp [hfinal, owner, partner, and_comm]
  · simp [hfinal, owner, partner, and_comm]
  · have hother : ¬ Relation.finalizedBy = e.relation := fun heq => hfinal heq.symm
    simp [hfinal, hother]

theorem owner_renamed (g : Graph) (e : Edge) : owner (renamed g e) = newId g (owner e) := by
  rw [owner, owner, apply_ite (newId g)]
  rfl

theorem partner_renamed (g : Graph) (e : Edge) : partner (renamed g e) = newId g (partner e) := by
  rw [partner, partner, apply_ite (newId g)]
  rfl

/-- The block of a task that is read back names the same edges in the same order. -/
theorem blockEdges_rebuilt (h : g.WellFormed) (hn : n ∈ emittedNodes g options)
    (hstub : isStub options n = false) :
    blockEdges (rebuilt g options) ((registeredOf g options).map (newId g))
        (rebuiltNode g options n) =
      (blockEdges g (registeredOf g options) n).map (renamed g) := by
  have hmem := ((mem_emittedNodes h.nodes.ids).1 hn).1
  have hown : ownEdges (rebuilt g options).edges ((registeredOf g options).map (newId g))
      (newId g n.id) = (blockEdges g (registeredOf g options) n).map (renamed g) := by
    rw [ownEdges, rebuilt_edges h, List.filter_map, ← filter_owner_keptEdges h hn hstub]
    congr 1
    refine List.filter_congr fun e he => ?_
    obtain ⟨hedge, hsource, htarget⟩ := (mem_keptEdges h).1 he
    obtain ⟨-, hsourceId, htargetId⟩ := h.edges.joined e hedge
    have howner : owner e ∈ g.nodes.map Node.id := by
      rw [owner]
      split <;> assumption
    have hpartner : partner e ∈ registeredOf g options := by
      rw [partner]
      split <;> assumption
    have hsame : newId g (owner e) = newId g n.id ↔ owner e = n.id :=
      ⟨newId_injective h howner (List.mem_map_of_mem hmem), fun heq => by rw [heq]⟩
    have hregistered : ((registeredOf g options).map (newId g)).contains (newId g (partner e)) =
        true := List.contains_iff_mem.2 (List.mem_map_of_mem hpartner)
    rw [Function.comp_apply, owner_renamed, partner_renamed, hregistered, Bool.and_true,
      Bool.eq_iff_iff, beq_iff_eq, beq_iff_eq, hsame]
  have hid : (rebuiltNode g options n).id = newId g n.id := by
    rw [rebuiltNode_id, newId_eq h hmem]
  have hrelation : ∀ p : Relation → Bool, (fun e : Edge => p e.relation) ∘ renamed g =
      fun e => p e.relation := fun _ => rfl
  rw [blockEdges_eq_filter, hid, hown, List.filter_map, List.filter_map,
    hrelation (· != .finalizedBy), hrelation fun r => !(r != .finalizedBy), ← List.map_append,
    blockEdges_eq_filter g, List.filter_append, List.filter_append]
  simp [List.filter_filter]

/-- The script of the graph that is read back registers the same tasks. -/
theorem registeredOf_rebuilt (h : g.WellFormed) : registeredOf (rebuilt g options) options =
    (registeredOf g options).map (newId g) := by
  have hsame : (fun n : Node => n.enabled || decide (options.disabledTasks = .emit)) ∘
      rebuiltNode g options = fun n => n.enabled || decide (options.disabledTasks = .emit) := by
    funext n
    rw [Function.comp_apply, rebuiltNode_enabled]
  rw [registeredOf, registeredIds, emittedNodes_rebuilt h, List.filter_map, hsame, registeredOf,
    registeredIds, List.map_map, List.map_map]
  refine List.map_congr_left fun n hn => ?_
  rw [Function.comp_apply, Function.comp_apply, rebuiltNode_id,
    newId_eq h ((mem_emittedNodes h.nodes.ids).1 (List.mem_filter.1 hn).1).1]

/-- A task that is read back has the identifier of the task. -/
theorem rebuiltNode_identifier (n : Node) :
    (rebuiltNode g options n).identifier = n.identifier := by
  change toIdentifier (foundBlock g (registeredOf g options) options n).name = _
  rw [foundBlock_name]
  exact to_identifier_to_identifier n.name

theorem identifierOf_rebuilt (h : g.WellFormed) {id : String} (hid : id ∈ registeredOf g options) :
    identifierOf (rebuilt g options) (newId g id) = identifierOf g id := by
  obtain ⟨n, hn, -, rfl⟩ := (mem_registeredOf h.nodes.ids).1 hid
  have hmem := ((mem_emittedNodes h.nodes.ids).1 hn).1
  have hrebuilt : rebuiltNode g options n ∈ (rebuilt g options).nodes := by
    rw [rebuilt_nodes]
    exact List.mem_map_of_mem hn
  have hid : (rebuiltNode g options n).id = newId g n.id := by
    rw [rebuiltNode_id, newId_eq h hmem]
  rw [← hid, identifierOf_eq (rebuilt_ids_nodup h) hrebuilt, rebuiltNode_identifier,
    identifierOf_eq h.nodes.ids hmem]

/-- The block of a task that is read back names the same tasks. -/
theorem writtenRelations_rebuilt (h : g.WellFormed) (hn : n ∈ emittedNodes g options)
    (hstub : isStub options n = false) :
    writtenRelations (rebuilt g options) (registeredOf (rebuilt g options) options)
        (rebuiltNode g options n) =
      writtenRelations g (registeredOf g options) n := by
  rw [writtenRelations_eq, writtenRelations_eq, registeredOf_rebuilt h,
    blockEdges_rebuilt h hn hstub, List.map_map]
  refine List.map_congr_left fun e he => ?_
  rw [Function.comp_apply, partner_renamed, identifierOf_rebuilt h (mem_blockEdges.1 he).2.2]
  rfl

end Relations

section Kinds

theorem keptStep_kind (step : Step) : (keptStep step).kind = step.kind := by
  cases step with
  | httpRequest c =>
      rw [keptStep]
      split <;> rfl
  | _ => rfl

theorem step_kind_of_ne (s : Settings) {kind : Kind} (h : kind ≠ .httpRequest) :
    (s.step kind).kind = kind := by
  cases kind with
  | httpRequest => exact absurd rfl h
  | _ => rfl

/-- A task that is read back has a block of its own, unless it has a stub. -/
theorem rebuiltNode_eq (hstub : isStub options n = false) : rebuiltNode g options n =
    blockNode (keptBlock g (registeredOf g options) options n 0) := by
  rw [rebuiltNode, foundBlock, if_neg (by simp [hstub])]

theorem rebuiltNode_step (hstub : isStub options n = false) (h : Recoverable n.step) :
    (rebuiltNode g options n).step = keptStep n.step := by
  rw [rebuiltNode_eq hstub]
  exact keptBlock_step h 0

/-- A task that is read from a stub has the class of the task, and needs the same plugins. -/
theorem stubNode_class (n : Node) :
    (blockNode (stubBlock n 0)).kind.scriptClass? = n.kind.scriptClass? ∧
      (blockNode (stubBlock n 0)).kind.needsJavaPlugin = n.kind.needsJavaPlugin := by
  have hkind : (blockNode (stubBlock n 0)).kind = kindOfClass n.kind.scriptClass? := by
    refine step_kind_of_ne _ ?_
    change kindOfClass n.kind.scriptClass? ≠ .httpRequest
    rw [kindOfClass_scriptClass]
    split
    · decide
    · assumption
  rw [hkind]
  generalize n.kind = kind
  cases kind <;> exact ⟨rfl, rfl⟩

/-- A task that is read back has the class of the task, and needs the same plugins. -/
theorem rebuiltNode_class (h : Recoverable n.step) :
    (rebuiltNode g options n).kind.scriptClass? = n.kind.scriptClass? ∧
      (rebuiltNode g options n).kind.needsJavaPlugin = n.kind.needsJavaPlugin := by
  cases hstub : isStub options n with
  | true =>
      rw [rebuiltNode, foundBlock, if_pos hstub]
      exact stubNode_class n
  | false =>
      have hkind : (rebuiltNode g options n).kind = n.kind := by
        rw [Node.kind, rebuiltNode_step hstub h, keptStep_kind, Node.kind]
      rw [hkind]
      exact ⟨rfl, rfl⟩

end Kinds

section Blocks

/-- The lines for a task that is read back are those for the task. -/
theorem taskBlock_rebuilt (h : g.WellFormed) (hportable : Portable g)
    (hdefaults : SameDefaults options.variableFormat g.vars (rebuilt g options).vars)
    (hdescriptions : options.includeDescriptions = false) (hn : n ∈ emittedNodes g options) :
    taskBlock (rebuilt g options) (registeredOf (rebuilt g options) options) options
        (rebuiltNode g options n) =
      taskBlock g (registeredOf g options) options n := by
  have hmem := ((mem_emittedNodes h.nodes.ids).1 hn).1
  have hrecoverable := (hportable.scriptable hmem).recoverable
  have hheader : registrationHeader (rebuiltNode g options n) = registrationHeader n := by
    rw [registrationHeader, registrationHeader, (rebuiltNode_class hrecoverable).1,
      rebuiltNode_identifier]
  have hbody : isStub options n = false →
      bodyLines (rebuilt g options) (registeredOf (rebuilt g options) options) options
          (rebuiltNode g options n) =
        bodyLines g (registeredOf g options) options n := by
    intro hstub
    have hgroup : (rebuiltNode g options n).group = presentText n.group := by
      rw [rebuiltNode_eq hstub]
      rfl
    have hdescription : (rebuiltNode g options n).description = presentText n.description := by
      rw [rebuiltNode_eq hstub]
      rfl
    have hcondition : (rebuiltNode g options n).condition =
        keptCondition? g.vars options.variableFormat n.condition := by
      rw [rebuiltNode_eq hstub]
      rfl
    have htimeout : (rebuiltNode g options n).timeoutMinutes = keptMinutes n.timeoutMinutes := by
      rw [rebuiltNode_eq hstub]
      rfl
    rw [bodyLines_eq, bodyLines_eq, hgroup, hdescription, hcondition, htimeout,
      minutesLine_keptMinutes, optionalLine_presentText, optionalLine_presentText,
      rebuiltNode_enabled, relationLines_eq, relationLines_eq, writtenRelations_rebuilt h hn hstub,
      rebuiltNode_step hstub hrecoverable, stepLines_keptStep _ (hportable.requests n hmem),
      condition_keptCondition hdefaults]
  rw [taskBlock, taskBlock, hdescriptions, hheader, rebuiltNode_enabled]
  simp only [Bool.false_eq_true, if_false, List.nil_append]
  split
  · rfl
  · next hstub => rw [hbody (by simpa [isStub] using hstub)]

end Blocks

section Variables

theorem variableNamed_of_mem (hnames : (vars.map Variable.name).Nodup) {v : Variable}
    (hv : v ∈ vars) : variableNamed? vars v.name = some v := by
  have hsome : (variableNamed? vars v.name).isSome := by
    rw [variableNamed?, List.find?_isSome]
    exact ⟨v, List.mem_reverse.2 hv, by simp⟩
  obtain ⟨w, hw⟩ := Option.isSome_iff_exists.1 hsome
  have hname : w.name = v.name := by simpa using List.find?_some hw
  have hmem : w ∈ vars := List.mem_reverse.1 (List.mem_of_find?_eq_some hw)
  rw [hw, List.inj_on_of_nodup_map hnames hmem hv hname]

theorem writtenDefault_of_mem (hnames : (vars.map Variable.name).Nodup) {v : Variable}
    (hv : v ∈ vars) : writtenDefault vars v.name = v.defaultValue := by
  rw [writtenDefault, variableNamed_of_mem hnames hv]
  rfl

theorem writtenDefault_of_not_mem {name : String} (h : name ∉ vars.map Variable.name) :
    writtenDefault vars name = "" := by
  have hnone : variableNamed? vars name = none := by
    rw [variableNamed?, List.find?_eq_none]
    intro v hv hname
    exact h (List.mem_map.2 ⟨v, List.mem_reverse.1 hv, by simpa using hname⟩)
  rw [writtenDefault, hnone]
  rfl

theorem rebuilt_vars : (rebuilt g options).vars =
    systemVariables ++ (declaredVariables options g.userVariables).map declared :=
  rfl

/-- A graph has every built-in variable, with its default. -/
theorem exists_builtIn (h : VariablesWellFormed g.vars) {s : Variable} (hs : s ∈ systemVariables) :
    ∃ v ∈ g.vars, v.name = s.name ∧ v.defaultValue = s.defaultValue := by
  obtain ⟨value, hvalue⟩ := h.builtIn s hs
  exact ⟨_, hvalue, rfl, rfl⟩

/-- Every variable that is read back is there. -/
theorem exists_of_mem_rebuilt (h : VariablesWellFormed g.vars) {w : Variable}
    (hw : w ∈ (rebuilt g options).vars) :
    ∃ v ∈ g.vars, v.name = w.name ∧ v.defaultValue = w.defaultValue := by
  rw [rebuilt_vars] at hw
  rcases List.mem_append.1 hw with hw | hw
  · exact exists_builtIn h hw
  · obtain ⟨v, hv, rfl⟩ := List.mem_map.1 hw
    have hmem := List.mem_of_mem_filter ((declaredVariables_sublist options _).subset hv)
    exact ⟨v, hmem, rfl, rfl⟩

/-- Every variable is read back when variables are declared. -/
theorem exists_mem_rebuilt (h : VariablesWellFormed g.vars) (hportable : Portable g)
    (hformat : options.variableFormat = .properties) {v : Variable} (hv : v ∈ g.vars) :
    ∃ w ∈ (rebuilt g options).vars, w.name = v.name ∧ w.defaultValue = v.defaultValue := by
  rw [rebuilt_vars, declaredVariables, if_neg (by simp [hformat])]
  cases hsystem : v.isSystem with
  | true =>
      obtain ⟨s, hs, hname⟩ := List.mem_map.1 (hportable.builtIn v hv hsystem)
      obtain ⟨u, hu, huname, hudefault⟩ := exists_builtIn h hs
      obtain rfl := List.inj_on_of_nodup_map h.names hu hv (huname.trans hname)
      exact ⟨s, List.mem_append_left _ hs, huname.symm, hudefault.symm⟩
  | false =>
      have huser : v ∈ g.userVariables := List.mem_filter.2 ⟨hv, by simp [hsystem]⟩
      exact ⟨declared v, List.mem_append_right _ (List.mem_map_of_mem huser), rfl, rfl⟩

/-- The variables that are read back have the defaults of the variables. -/
theorem sameDefaults_rebuilt (h : VariablesWellFormed g.vars) (hportable : Portable g) :
    SameDefaults options.variableFormat g.vars (rebuilt g options).vars := by
  intro hformat name
  have hnames : ((rebuilt g options).vars.map Variable.name).Nodup := variableNames_nodup h
  by_cases hmem : name ∈ g.vars.map Variable.name
  · obtain ⟨v, hv, rfl⟩ := List.mem_map.1 hmem
    obtain ⟨w, hw, hname, hdefault⟩ := exists_mem_rebuilt h hportable hformat hv
    rw [writtenDefault_of_mem h.names hv, ← hname, writtenDefault_of_mem hnames hw, hdefault]
  · rw [writtenDefault_of_not_mem hmem, writtenDefault_of_not_mem fun hname => hmem ?_]
    obtain ⟨w, hw, rfl⟩ := List.mem_map.1 hname
    obtain ⟨v, hv, hname, -⟩ := exists_of_mem_rebuilt h hw
    exact hname ▸ List.mem_map_of_mem hv

theorem rebuilt_userVariables : (rebuilt g options).userVariables =
    (declaredVariables options g.userVariables).map declared := by
  refine userVariables_eq rebuilt_vars fun w hw => ?_
  obtain ⟨v, -, rfl⟩ := List.mem_map.1 hw
  rfl

/-- The same variables are declared again. -/
theorem variableLines_rebuilt : variableLines options (rebuilt g options).userVariables =
    variableLines options g.userVariables := by
  rw [rebuilt_userVariables, declaredVariables]
  by_cases hinline : options.variableFormat = .inline
  · simp [variableLines, hinline]
  · have hlines : variableLine ∘ declared = variableLine := rfl
    rw [if_neg hinline, variableLines, variableLines, List.isEmpty_map, List.map_map, hlines]

end Variables

section Scripts

/-- The script of the graph that is read back is the script of the graph. -/
theorem script_rebuilt (h : g.WellFormed) (hportable : Portable g)
    (hdescriptions : options.includeDescriptions = false) (now : Timestamp) :
    (rebuilt g options).script options now = g.script options now := by
  have hblocks : (emittedNodes (rebuilt g options) options).flatMap
      (taskBlock (rebuilt g options) (registeredOf (rebuilt g options) options) options) =
      (emittedNodes g options).flatMap (taskBlock g (registeredOf g options) options) := by
    rw [emittedNodes_rebuilt h, List.flatMap_map]
    exact List.flatMap_congr fun n hn => taskBlock_rebuilt h hportable
      (sameDefaults_rebuilt h.vars hportable) hdescriptions hn
  have hjava : (emittedNodes (rebuilt g options) options).any (fun n => n.kind.needsJavaPlugin) =
      (emittedNodes g options).any fun n => n.kind.needsJavaPlugin := by
    rw [emittedNodes_rebuilt h, List.any_map, Bool.eq_iff_iff, List.any_eq_true, List.any_eq_true]
    refine exists_congr fun n => and_congr_right fun hn => ?_
    have hrecoverable := (hportable.scriptable ((mem_emittedNodes h.nodes.ids).1 hn).1).recoverable
    rw [Function.comp_apply, (rebuiltNode_class hrecoverable).2]
  have hplugins : pluginLines options (emittedNodes (rebuilt g options) options) =
      pluginLines options (emittedNodes g options) := by
    rw [pluginLines, pluginLines, hjava]
  have hlines : scriptLines (rebuilt g options) options now = scriptLines g options now := by
    change _ ++ pluginLines options (emittedNodes (rebuilt g options) options) ++
      variableLines options (rebuilt g options).userVariables ++ _ ++
      (emittedNodes (rebuilt g options) options).flatMap
        (taskBlock (rebuilt g options) (registeredOf (rebuilt g options) options) options) = _
    rw [hplugins, variableLines_rebuilt, hblocks]
    rfl
  rw [Graph.script, hlines, Graph.script]

/-- The time of writing does not show when a time is given. -/
theorem script_of_fixed_time (hfixed : options.includeTimestamp = true → options.timestamp.isSome)
    (now later : Timestamp) : g.script options later = g.script options now := by
  have hheader : headerLines options later = headerLines options now := by
    cases hstamp : options.includeTimestamp with
    | false => simp only [headerLines, hstamp, Bool.false_eq_true, if_false]
    | true =>
        obtain ⟨time, htime⟩ := Option.isSome_iff_exists.1 (hfixed hstamp)
        simp only [headerLines, htime, Option.getD_some]
  rw [Graph.script, Graph.script, scriptLines, scriptLines, hheader]

/-- The script of a graph with all that a script can carry is read without errors and without
remarks, but for the one that there are no tasks, and the graph that is read has the same script. -/
theorem script_fixpoint (hreachable : g.Reachable) (hportable : Portable g)
    (hdescriptions : options.includeDescriptions = false) (hproject : options.projectName = none)
    (hfixed : options.includeTimestamp = true → options.timestamp.isSome) (now later : Timestamp) :
    ∃ r, readScript (g.script options now) {} = .ok r ∧ r.errors = [] ∧
      (r.warnings = if (emittedNodes g options).isEmpty then [.noTasks] else []) ∧
      r.graph.script options later = g.script options now := by
  have h := hreachable.well_formed
  refine ⟨_, read_script_eq h hportable now hdescriptions hproject, rfl, rfl, ?_⟩
  exact (script_of_fixed_time hfixed now later).trans (script_rebuilt h hportable hdescriptions now)

/-- A task with a guard and a request that waits for it, with a variable that the guard asks for. -/
theorem script_fixpoint_guarded :
    let quiet : Variable := { id := "v", name := "quiet", defaultValue := "no" }
    let guard : Guard := { mode := .skipIf, conditions := [⟨⟨.variable, "quiet"⟩, .isTrue, {}⟩] }
    let greet : Node := {
      id := "a", name := "say hello", step := .exec { commandLine := ["echo", "hi"] }
      condition := some guard, timeoutMinutes := some 5 }
    let ask : Node := { id := "b", name := "ask", step := .httpRequest { url := "https://x.io" } }
    let g : Graph := [GraphChange.addVariable quiet, .addNode ask, .addNode greet,
      .addEdge "a" "b" .dependsOn].foldl Graph.after Graph.empty
    let options : ExportOptions := { includeDescriptions := false }
    (emittedNodes g options).map Node.identifier = ["say_hello", "ask"] ∧
      ∃ r, readScript (g.script options ⟨0, none⟩) {} = .ok r ∧ r.errors = [] ∧
        (r.warnings = if (emittedNodes g options).isEmpty then [.noTasks] else []) ∧
        r.graph.script options ⟨1, none⟩ = g.script options ⟨0, none⟩ := by
  intro quiet guard greet ask g options
  have hnodes : g.nodes = [ask, greet] := by decide +kernel
  have hvars : g.vars = systemVariables ++ [quiet] := by decide +kernel
  have hportable : Portable g := {
    variableNames := by
      intro v hv
      rw [Graph.userVariables, hvars] at hv
      obtain ⟨rfl, -⟩ : v = quiet ∧ v.isSystem = false := by simpa [systemVariables] using hv
      simp [quiet, isIdentifierChar]
    builtIn := by
      rw [hvars]
      simp [systemVariables, quiet]
    steps := by
      rw [hnodes]
      simp [ask, greet, PrintableStep]
    timeouts := by
      rw [hnodes]
      simp only [List.forall_mem_cons, ask, greet, Printable]
      exact ⟨by simp, by simp; decide, by simp⟩
    commands := by
      rw [hnodes]
      simp [ask, greet, RunsCurl]
    requests := by
      rw [hnodes]
      simp only [List.forall_mem_cons, ask, greet]
      refine ⟨fun c hc => ?_, by simp, by simp⟩
      obtain rfl := Step.httpRequest.inj hc
      exact ⟨_, rfl, rfl⟩ }
  refine ⟨by decide +kernel, script_fixpoint ⟨_, rfl⟩ hportable rfl rfl (by simp [options]) _ _⟩

end Scripts

end BuildGraph.Script
