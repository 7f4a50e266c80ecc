import BuildGraph.Proofs.Script.Rewritten

/-!
# What comes back from a script

A script that writes disabled tasks and declares variables keeps all of a graph but what display and
triggers need: `graph_recovery` says that every task comes back with its settings, its guard and its
relations to others, up to empty texts, limits of zero and what no guard asks for.
-/

namespace BuildGraph.Script

variable {g : Graph} {options : ExportOptions} {n m : Node}

section Normal

/-- The condition without an operand that it does not ask for. -/
def normalCondition (c : Condition) : Condition :=
  { c with right := if c.operator.isUnary then {} else c.right }

/-- The guard with conditions that ask for all their operands. How a single condition is joined
does not count. -/
def normalGuard (guard : Guard) : Guard where
  mode := guard.mode
  conditions := guard.conditions.map normalCondition
  logic := if guard.conditions.length = 1 then .all else guard.logic

/-- The guard of a task, if it has conditions. -/
def normalGuard? (guard : Option Guard) : Option Guard :=
  (guard.filter fun c => !c.conditions.isEmpty).map normalGuard

/-- The step without empty texts that may be absent. -/
def normalStep : Step → Step
  | .exec c => .exec { c with workingDir := presentText c.workingDir }
  | .zip c => .zip { c with
      archiveFileName := presentText c.archiveFileName
      destinationDirectory := presentText c.destinationDirectory }
  | .jar c => .jar { c with
      archiveFileName := presentText c.archiveFileName
      destinationDirectory := presentText c.destinationDirectory }
  | .javaCompile c => .javaCompile { c with
      sourceCompatibility := presentText c.sourceCompatibility
      targetCompatibility := presentText c.targetCompatibility
      encoding := presentText c.encoding }
  | step => step

/-- A script that declares variables keeps guards as they are, but for what does not count. -/
theorem keptCondition?_eq_normalGuard? (vars : List Variable) (condition : Option Guard) :
    keptCondition? vars .properties condition = normalGuard? condition := by
  have hcondition : keptCondition vars .properties = normalCondition := by
    funext c
    rw [keptCondition, normalCondition, keptOperand_properties, keptOperand_properties]
  cases condition with
  | none => rfl
  | some c =>
      have hguard : keptGuard vars .properties c = normalGuard c := by
        rw [keptGuard, normalGuard, hcondition]
      rw [keptCondition?, Option.bind_some, normalGuard?, hguard]
      cases hempty : c.conditions.isEmpty <;> simp [Option.filter, hempty]

/-- A request that is read back from its own command is kept. -/
theorem keptStep_eq_normalStep {step : Step} (h : ∀ c, step = .httpRequest c →
    HttpConfig.ofCurl? c.curlArguments = .ok (some c)) : keptStep step = normalStep step := by
  cases step with
  | httpRequest c => simp only [keptStep, h c rfl, normalStep]
  | _ => rfl

end Normal

section Graphs

/-- One task came back as the other. -/
structure ReturnedAs (n m : Node) : Prop where
  identifier : m.identifier = n.identifier
  kind : m.kind = n.kind
  enabled : m.enabled = n.enabled
  group : m.group = presentText n.group
  description : m.description = presentText n.description
  timeout : m.timeoutMinutes = keptMinutes n.timeoutMinutes
  step : m.step = normalStep n.step
  condition : m.condition = normalGuard? n.condition

/-- An edge between the identifiers of tasks. -/
def namedEdge (g : Graph) (e : Edge) : String × String × Relation :=
  (identifierOf g e.source, identifierOf g e.target, e.relation)

/-- A graph came back as the other: one task for each, told by their identifiers, with the same
edges between them. -/
structure Returned (g read : Graph) : Prop where
  tasks : ∃ nodes, nodes.Perm g.nodes ∧ List.Forall₂ ReturnedAs nodes read.nodes
  distinct : (read.nodes.map Node.identifier).Nodup
  edges : (read.edges.map (namedEdge read)).Perm (g.edges.map (namedEdge g))
  edges_distinct : (read.edges.map (namedEdge read)).Nodup

/-- No task has a stub in a script that writes disabled tasks. -/
theorem isStub_of_emit (hemit : options.disabledTasks = .emit) (n : Node) :
    isStub options n = false := by
  simp [isStub, hemit]

theorem emittedNodes_perm (h : g.WellFormed) (hemit : options.disabledTasks = .emit) :
    (emittedNodes g options).Perm g.nodes := by
  refine (List.perm_ext_iff_of_nodup (List.Nodup.of_map _ (emittedNodes_ids_nodup h.nodes.ids))
    (List.Nodup.of_map _ h.nodes.ids)).2 fun n => ?_
  rw [mem_emittedNodes h.nodes.ids]
  simp [hemit]

theorem mem_registeredOf_of_emit (h : g.WellFormed) (hemit : options.disabledTasks = .emit)
    {id : String} (hid : id ∈ g.nodes.map Node.id) : id ∈ registeredOf g options := by
  obtain ⟨n, hn, rfl⟩ := List.mem_map.1 hid
  have hemitted := (emittedNodes_perm h hemit).mem_iff.2 hn
  exact (mem_registeredOf h.nodes.ids).2 ⟨n, hemitted, isStub_of_emit hemit n, rfl⟩

theorem keptEdges_perm (h : g.WellFormed) (hemit : options.disabledTasks = .emit) :
    (keptEdges g options).Perm g.edges := by
  refine (List.perm_ext_iff_of_nodup (keptEdges_nodup h) h.edges.nodup).2 fun e => ?_
  rw [mem_keptEdges h]
  refine ⟨fun he => he.1, fun he => ?_⟩
  obtain ⟨-, hsource, htarget⟩ := h.edges.joined e he
  exact ⟨he, mem_registeredOf_of_emit h hemit hsource, mem_registeredOf_of_emit h hemit htarget⟩

theorem namedEdge_renamed (h : g.WellFormed) (hemit : options.disabledTasks = .emit) {e : Edge}
    (he : e ∈ g.edges) : namedEdge (rebuilt g options) (renamed g e) = namedEdge g e := by
  obtain ⟨-, hsource, htarget⟩ := h.edges.joined e he
  have hends : ∀ id ∈ g.nodes.map Node.id,
      identifierOf (rebuilt g options) (newId g id) = identifierOf g id := fun id hid =>
    identifierOf_rebuilt h (mem_registeredOf_of_emit h hemit hid)
  change (identifierOf _ (newId g e.source), identifierOf _ (newId g e.target), e.relation) = _
  rw [hends _ hsource, hends _ htarget]
  rfl

/-- Every task comes back. -/
theorem returnedAs_rebuiltNode (hportable : Portable g) (hemit : options.disabledTasks = .emit)
    (hformat : options.variableFormat = .properties)
    (hrequests : ∀ n ∈ g.nodes, ∀ c, n.step = .httpRequest c →
      HttpConfig.ofCurl? c.curlArguments = .ok (some c)) (hn : n ∈ g.nodes) :
    ReturnedAs n (rebuiltNode g options n) := by
  have hstub := isStub_of_emit hemit n
  have hkept := rebuiltNode_step (g := g) hstub (hportable.scriptable hn).recoverable
  have hblock := rebuiltNode_eq (g := g) hstub
  refine ⟨rebuiltNode_identifier n, ?_, rebuiltNode_enabled n, ?_, ?_, ?_, ?_, ?_⟩
  · rw [Node.kind, hkept, keptStep_kind, Node.kind]
  · rw [hblock]
    rfl
  · rw [hblock]
    rfl
  · rw [hblock]
    rfl
  · rw [hkept, keptStep_eq_normalStep (hrequests n hn)]
  · rw [← keptCondition?_eq_normalGuard? g.vars, ← hformat, hblock]
    rfl

/-- A script that writes disabled tasks and declares variables is read back to all tasks of its
graph and all edges between them. -/
theorem graph_recovery (hreachable : g.Reachable) (hportable : Portable g)
    (hrequests : ∀ n ∈ g.nodes, ∀ c, n.step = .httpRequest c →
      HttpConfig.ofCurl? c.curlArguments = .ok (some c))
    (hemit : options.disabledTasks = .emit) (hformat : options.variableFormat = .properties)
    (hdescriptions : options.includeDescriptions = false) (hproject : options.projectName = none)
    (now : Timestamp) :
    ∃ r, readScript (g.script options now) {} = .ok r ∧ Returned g r.graph := by
  have h := hreachable.well_formed
  refine ⟨_, read_script_eq h hportable now hdescriptions hproject, ?_⟩
  have hnamed : (rebuilt g options).edges.map (namedEdge (rebuilt g options)) =
      (keptEdges g options).map (namedEdge g) := by
    rw [rebuilt_edges h, List.map_map]
    exact List.map_congr_left fun e he => namedEdge_renamed h hemit ((mem_keptEdges h).1 he).1
  have hinjective : ∀ e ∈ g.edges, ∀ e' ∈ g.edges, namedEdge g e = namedEdge g e' → e = e' := by
    intro e he e' he' heq
    refine renamed_injective h he he' ?_
    obtain ⟨hsource, htarget, hrelation⟩ : identifierOf g e.source = identifierOf g e'.source ∧
        identifierOf g e.target = identifierOf g e'.target ∧ e.relation = e'.relation := by
      simpa [namedEdge] using heq
    rw [renamed, renamed, hsource, htarget, hrelation]
  have hperm := keptEdges_perm h hemit
  exact {
    tasks := by
      refine ⟨emittedNodes g options, emittedNodes_perm h hemit, ?_⟩
      rw [rebuilt_nodes, List.forall₂_map_right_iff, List.forall₂_same]
      exact fun n hn => returnedAs_rebuiltNode hportable hemit hformat hrequests
        ((emittedNodes_perm h hemit).mem_iff.1 hn)
    distinct := by
      rw [rebuilt_nodes, List.map_map]
      have hidentifiers : Node.identifier ∘ rebuiltNode g options = Node.identifier :=
        funext rebuiltNode_identifier
      rw [hidentifiers]
      exact ((emittedNodes_perm h hemit).map _).nodup_iff.2 h.nodes.identifiers
    edges := by
      rw [hnamed]
      exact hperm.map _
    edges_distinct := by
      rw [hnamed]
      exact (keptEdges_nodup h).map_on fun e he e' he' heq =>
        hinjective e (hperm.mem_iff.1 he) e' (hperm.mem_iff.1 he') heq }

/-- A task that is switched off, with a guard whose second operand does not count, and a request
that is finished by it. -/
theorem graph_recovery_switched_off :
    let guard : Guard := {
      conditions := [⟨⟨.environment, "CI"⟩, .isNotEmpty, ⟨.literal, "ignored"⟩⟩], logic := .any }
    let sweep : Node := {
      id := "a", name := "sweep up", step := .delete { delete := ["out"] }, enabled := false
      group := some "", condition := some guard, timeoutMinutes := some 0 }
    let ask : Node := { id := "b", name := "ask", step := .httpRequest { url := "https://x.io" } }
    let g : Graph := [GraphChange.addNode sweep, .addNode ask,
      .addEdge "b" "a" .finalizedBy].foldl Graph.after Graph.empty
    let options : ExportOptions := { includeDescriptions := false, disabledTasks := .emit }
    g.edges = [⟨"b", "a", .finalizedBy⟩] ∧ normalGuard? sweep.condition ≠ sweep.condition ∧
      ∃ r, readScript (g.script options ⟨0, none⟩) {} = .ok r ∧ Returned g r.graph := by
  intro guard sweep ask g options
  have hnodes : g.nodes = [sweep, ask] := by decide +kernel
  have hvars : g.vars = systemVariables := by decide +kernel
  have hrequests : ∀ n ∈ g.nodes, ∀ c, n.step = .httpRequest c →
      HttpConfig.ofCurl? c.curlArguments = .ok (some c) := by
    rw [hnodes]
    simp only [List.forall_mem_cons, sweep, ask]
    refine ⟨by simp, fun c hc => ?_, by simp⟩
    obtain rfl := Step.httpRequest.inj hc
    rfl
  have hportable : Portable g := {
    variableNames := by
      rw [Graph.userVariables, hvars]
      simp [systemVariables]
    builtIn := by
      rw [hvars]
      simp [systemVariables]
    steps := by
      rw [hnodes]
      simp [sweep, ask, PrintableStep]
    timeouts := by
      rw [hnodes]
      simp only [List.forall_mem_cons, sweep, ask, Printable]
      exact ⟨by simp; decide, by simp, by simp⟩
    commands := by
      rw [hnodes]
      simp [sweep, ask]
    requests := fun n hn c hc => ⟨c, hrequests n hn c hc, rfl⟩ }
  exact ⟨by decide +kernel, by decide,
    graph_recovery ⟨_, rfl⟩ hportable hrequests rfl rfl rfl rfl _⟩

end Graphs

end BuildGraph.Script
