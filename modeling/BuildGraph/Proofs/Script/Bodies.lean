import BuildGraph.Proofs.Script.Steps
import BuildGraph.Script.Read

/-!
# Blocks that are written and read

The lines that are written into the block of a task are read to the block that a script keeps of the
task, `keptBlock`. Its step is the step of the task up to empty texts, also where a request is
written as a command.
-/

namespace BuildGraph.Script

open BuildGraph.Number

variable {g : Graph} {registered : List String} {options : ExportOptions} {n : Node}

section Relations

/-- The name in scripts of the node of an id. -/
def identifierOf (g : Graph) (id : String) : String :=
  ((g.nodes.reverse.find? fun m => m.id == id).map Node.identifier).getD ""

/-- The relations that the block of a node names: those into it, but for the ones that finish it,
and then what finishes it. -/
def writtenRelations (g : Graph) (registered : List String) (n : Node) : List (Relation × String) :=
  ((g.incoming n.id none).filter fun e =>
      e.relation != .finalizedBy && registered.contains e.source).map
    (fun e => (e.relation, identifierOf g e.source)) ++
  ((g.outgoing n.id (some .finalizedBy)).filter fun e => registered.contains e.target).map
    fun e => (.finalizedBy, identifierOf g e.target)

theorem relationLines_eq (g : Graph) (registered : List String) (n : Node) :
    relationLines g registered n =
      (writtenRelations g registered n).map fun r => r.1.name ++ "(" ++ quote r.2 ++ ")" := by
  simp only [relationLines, writtenRelations, List.map_append, List.map_map]
  rfl

/-- The name can be referred to: it is not empty, and no colon starts it. -/
def Referable (name : String) : Prop := name.toList.head? ≠ some ':' ∧ name ≠ ""

theorem readable_relations {relations : List (Relation × String)}
    (h : ∀ r ∈ relations, Referable r.2) :
    Readable (relations.map fun r => r.1.name ++ "(" ++ quote r.2 ++ ")")
      fun b => { b with relations := b.relations ++ relations } := by
  induction relations with
  | nil =>
      refine Readable.nil.of_eq ?_
      funext b
      simp
  | cons r relations ih =>
      obtain ⟨⟨hcolon, hne⟩, hrest⟩ := List.forall_mem_cons.1 h
      have hnamed : isIdentifier r.1.name.toList = true := by
        cases r.1 <;> decide
      have hline := Readable.of_line ((written_quote r.2).call r.1.name hnamed)
        (understood_relation r.1 hcolon hne)
      refine (hline.append (ih hrest)).of_eq ?_
      funext b
      simp

end Relations

section Bodies

/-- The guard that a script keeps: one without conditions is left out. -/
def keptCondition? (vars : List Variable) (format : VariableFormat) (condition : Option Guard) :
    Option Guard :=
  condition.bind fun c => if c.conditions.isEmpty then none else some (keptGuard vars format c)

/-- The limit that a script keeps: none is left out. -/
def keptMinutes (minutes : Option Int) : Option Int := minutes.filter (· ≠ 0)

theorem readable_condition (vars : List Variable) (format : VariableFormat)
    (condition : Option Guard) :
    Readable (condition.bind (guardStatement? vars format)).toList
      fun b => { b with condition := (keptCondition? vars format condition).or b.condition } := by
  cases condition with
  | none => exact .nil
  | some c =>
      rw [keptCondition?, Option.bind_some, Option.bind_some]
      cases htext : guardStatement? vars format c with
      | none =>
          have hempty : c.conditions.isEmpty = true := by
            by_contra hne
            simp [guardStatement?, hne] at htext
          rw [if_pos hempty]
          exact .nil
      | some text =>
          obtain ⟨hne, hwritten⟩ := written_guard htext
          rw [if_neg (by simpa using hne)]
          exact .of_line hwritten (understood_guard hne)

/-- The line of a limit that is set and not zero. -/
def minutesLine (minutes : Option Int) : List String :=
  match minutes with
  | some m => if m = 0 then [] else ["timeout.set(Duration.ofMinutes(" ++ toString m ++ "))"]
  | none => []

theorem bodyLines_eq (g : Graph) (registered : List String) (options : ExportOptions) (n : Node) :
    bodyLines g registered options n =
      optionalLine (fun s => "group = " ++ quote s) n.group ++
      optionalLine (fun s => "description = " ++ quote s) n.description ++
      flagLine "enabled = false" (!n.enabled) ++
      relationLines g registered n ++
      stepLines options.includeComments n.step ++
      (n.condition.bind (guardStatement? g.vars options.variableFormat)).toList ++
      minutesLine n.timeoutMinutes :=
  rfl

end Bodies

section Recovery

/-- The command does nothing but run curl: nothing else of it is set, where a working directory
without a name is none. -/
def RunsCurl (c : ExecConfig) : Prop :=
  c.commandLine.head? = some "curl" ∧ presentText c.workingDir = none ∧ c.args = [] ∧
    c.environment.entries = [] ∧ c.ignoreExitValue = false

/-- A script tells a command from a request, and a request is read back from its command. -/
def Recoverable : Step → Prop
  | .exec c => ¬ RunsCurl c
  | .httpRequest c => ∃ read, HttpConfig.ofCurl? c.curlArguments = .ok (some read)
  | _ => True

/-- The request that a script keeps of a step, if it is one. -/
def keptRequest? (step : Step) : Option HttpConfig :=
  match keptStep step with
  | .httpRequest c => some c
  | _ => none

/-- What the lines of a task are read to, before a request is told from a command. -/
def readBlockOf (g : Graph) (registered : List String) (options : ExportOptions) (n : Node)
    (line : Nat) : Block where
  name := n.identifier
  kind := kindOfClass n.kind.scriptClass?
  line := line
  enabled := n.enabled
  group := presentText n.group
  description := presentText n.description
  timeoutMinutes := keptMinutes n.timeoutMinutes
  condition := keptCondition? g.vars options.variableFormat n.condition
  settings := stepSettings n.step
  relations := writtenRelations g registered n

/-- The block that a script keeps of a task. -/
def keptBlock (g : Graph) (registered : List String) (options : ExportOptions) (n : Node)
    (line : Nat) : Block :=
  { readBlockOf g registered options n line with kind := n.kind, request := keptRequest? n.step }

/-- The class of a script's task gives the kind back, but for requests. -/
theorem kindOfClass_scriptClass (kind : Kind) :
    kindOfClass kind.scriptClass? = if kind = .httpRequest then .exec else kind := by
  cases kind <;> decide

/-- A command that does more than run curl stays one. -/
theorem recoverRequest_of_command {b : Block}
    (h : ∀ args, b.settings ≠ { commandLine := some ("curl" :: args) }) :
    recoverRequest b = .ok b := by
  rw [recoverRequest]
  split
  · next args hcommand =>
      have hmore : ¬ b.settings = { commandLine := b.settings.commandLine } := by
        rw [hcommand]
        exact h args
      simp [hmore]
  · rfl

/-- A command that does nothing but run curl becomes the request of its arguments. -/
theorem recoverRequest_of_request {b : Block} {args : List String} {request : HttpConfig}
    (hkind : b.kind = .exec) (hsettings : b.settings = { commandLine := some ("curl" :: args) })
    (hread : HttpConfig.ofCurl? args = .ok (some request)) :
    recoverRequest b = .ok { b with kind := .httpRequest, request := some request } := by
  simp only [recoverRequest, hsettings, hkind, hread]
  rfl

theorem runsCurl_of_settings {c : ExecConfig} {args : List String}
    (h : stepSettings (.exec c) = { commandLine := some ("curl" :: args) }) : RunsCurl c := by
  obtain ⟨command, dir, moreArgs, environment, ignore⟩ := c
  simp only [stepSettings, Settings.mk.injEq, and_true] at h
  obtain ⟨hcommand, hdir, hargs, henvironment, hignore⟩ := h
  refine ⟨?_, hdir, ?_, ?_, ?_⟩
  · change command.head? = some "curl"
    rw [← extendBy_none command, hcommand]
    rfl
  · change moreArgs = []
    rw [← extendBy_none moreArgs, hargs]
    rfl
  · change environment.entries = []
    rw [← setAll_entries environment, henvironment]
    rfl
  · change ignore = false
    rw [← (switchTo_none ignore).1, hignore]
    rfl

/-- What is read of a task is recovered as what is kept of it. -/
theorem recoverRequest_readBlockOf (h : Recoverable n.step) (line : Nat) :
    recoverRequest (readBlockOf g registered options n line) =
      .ok (keptBlock g registered options n line) := by
  obtain ⟨id, name, step, group, description, enabled, timeout, condition, trigger⟩ := n
  cases step with
  | exec c =>
      rw [recoverRequest_of_command fun args hsettings => h (runsCurl_of_settings hsettings)]
      rfl
  | httpRequest c =>
      obtain ⟨read, hread⟩ := h
      have hkept : keptRequest? (.httpRequest c) = some read := by
        rw [keptRequest?, keptStep, hread]
      simp only [keptBlock, hkept]
      exact recoverRequest_of_request rfl rfl hread
  | _ => rfl

/-- The step of the block is the step that is kept. -/
theorem keptBlock_step (h : Recoverable n.step) (line : Nat) :
    (keptBlock g registered options n line).step = keptStep n.step := by
  have hother : n.step.kind ≠ .httpRequest → (stepSettings n.step).step n.step.kind =
    keptStep n.step := stepSettings_step
  obtain ⟨id, name, step, group, description, enabled, timeout, condition, trigger⟩ := n
  cases step with
  | httpRequest c =>
      obtain ⟨read, hread⟩ := h
      have hkept : keptStep (.httpRequest c) = .httpRequest read := by rw [keptStep, hread]
      simp only [Block.step, keptBlock, keptRequest?, hkept]
  | _ => exact hother (by simp [Step.kind])

end Recovery

end BuildGraph.Script
