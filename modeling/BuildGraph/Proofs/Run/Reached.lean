import BuildGraph.Proofs.Run.RunLog
import BuildGraph.Run.Course

/-!
# The runs of a plan

An idle orchestrator starts a run, and then things happen to it from outside, in any order: work
reports lines and ends, the run is woken at the gate, controls are called. `Reached` are the states
that it comes to. Each function of the orchestrator is shown to write a log of `RunLog` and to wait
where the stage of the log says; `Reached.tracks` says so of every run.
-/

namespace BuildGraph

open Orchestrator

/-- What happens to a run from outside. -/
inductive Move where
  /-- The work under way reports a line. -/
  | report (line : String)
  /-- Work that the run does not wait for reports a line. -/
  | stray (n : Node) (line : String)
  /-- The work under way ends. -/
  | finish (ending : WorkEnd)
  /-- The run goes on from the gate, if it can. -/
  | wake
  /-- A control is called. A refused call changes nothing. -/
  | control (c : Control)

/-- The run after a move. A run that is over stays as it is. -/
def Move.apply (plan : RunPlan) (o : Orchestrator) (m : Move) : Orchestrator :=
  if o.isRunning then
    match m with
    | report line => o.report line
    | stray n line => o.enterLine n line
    | finish ending => o.finishWork ending
    | wake => o.wake
    | control c => (o.obey plan c).1
  else o

/-- Whether the gate was opened for a run that has not gone on yet. -/
def Orchestrator.isWoken (o : Orchestrator) : Bool :=
  match o.phase with
  | .atGate _ woken _ => woken
  | _ => false

/-- Whether rules let a move happen. -/
def Move.IsAllowed (r : Rules) (o : Orchestrator) : Move → Prop
  | stray _ _ => r.strays = true
  | control .pause => r.latePauses = true ∨ o.isWoken = false
  | _ => True

/-- The states that the runs of a plan come to. -/
inductive Reached (r : Rules) (plan : RunPlan) : Orchestrator → Prop
  | started {idle o : Orchestrator} (h : idle.start plan = .ok o) : Reached r plan o
  | moved {o : Orchestrator} (h : Reached r plan o) (m : Move) (hm : m.IsAllowed r o) :
      Reached r plan (m.apply plan o)

/-- Whether rules let moves happen one after another. -/
def AreAllowed (r : Rules) (plan : RunPlan) : Orchestrator → List Move → Prop
  | _, [] => True
  | o, m :: moves => m.IsAllowed r o ∧ AreAllowed r plan (m.apply plan o) moves

/-- The loosest rules let all moves happen. -/
theorem are_allowed (plan : RunPlan) (o : Orchestrator) (moves : List Move) :
    AreAllowed ⟨true, true⟩ plan o moves := by
  induction moves generalizing o with
  | nil => trivial
  | cons m moves ih =>
      refine ⟨?_, ih _⟩
      cases m with
      | report | finish | wake => trivial
      | stray => rfl
      | control c => cases c <;> simp [Move.IsAllowed]

/-- Moves that rules let happen lead a run on. -/
theorem Reached.play {r : Rules} {plan : RunPlan} {o : Orchestrator} {moves : List Move}
    (h : Reached r plan o) (hmoves : AreAllowed r plan o moves) :
    Reached r plan (moves.foldl (Move.apply plan) o) := by
  induction moves generalizing o with
  | nil => exact h
  | cons m moves ih => exact ih (h.moved m hmoves.1) hmoves.2

namespace Orchestrator

/-- The event that is entered. -/
def entry (o : Orchestrator) (kind : EventKind) (node : Option Node) (message : Option String)
    (level : LogLevel) : Event where
  kind := kind
  run := o.runs
  timestamp := o.clock.now
  taskId := node.map Node.id
  taskName := node.map Node.name
  level := level
  message := message

/-- What an orchestrator wrote agrees with a stage of a run, wherever it waits. -/
structure Follows (r : Rules) (plan : RunPlan) (o : Orchestrator) (stage : Stage) : Prop where
  log : RunLog r plan (plan.guardContext o.surrounding) o.events stage
  /-- The state is what the log comes to. -/
  state : o.state = replay o.events
  aborted : o.aborted = true ↔ Aborted o.events
  /-- The work was asked for once for each task that was begun. -/
  asked : o.asked =
    (startedIds o.events).filterMap fun id => (plan.graph.node? id).map plan.request

/-- The gate is closed during a pause alone, an aborted run is not paused, and a run that was woken
is paused only if rules let it. -/
structure Gated (r : Rules) (o : Orchestrator) : Prop where
  gate : o.gateOpen = !o.state.isPaused
  released : o.aborted = true → o.state.isPaused = false
  woken : o.isWoken = true → r.latePauses = true ∨ o.state.isPaused = false

/-- What a run waits for at a stage. -/
inductive WaitsAt (plan : RunPlan) : Phase → Stage → Prop
  | atGate {woken visited id remaining} :
      WaitsAt plan (.atGate plan woken (id :: remaining)) (.between visited (id :: remaining))
  | working {visited n begun remaining} :
      WaitsAt plan (.working plan n begun remaining) (.working visited n remaining)
  | ended {last} : WaitsAt plan (.idle none) (.ended last)
  | broken {stage cause} : WaitsAt plan (.idle (some cause)) stage

/-- An orchestrator carries out a run of a plan: what it wrote and what it waits for belong to one
stage. -/
def Tracks (r : Rules) (plan : RunPlan) (o : Orchestrator) : Prop :=
  ∃ stage, o.Follows r plan stage ∧ WaitsAt plan o.phase stage ∧ (o.isRunning = true → o.Gated r)

variable {r : Rules} {plan : RunPlan} {o : Orchestrator} {stage next : Stage} {n : Node}
  {visited remaining : List String} {id : String} {kind : EventKind} {node : Option Node}
  {message : Option String} {level : LogLevel}

section Writing

theorem record_is_paused :
    (o.record kind node message level).state.isPaused = kind.pausing?.getD o.state.isPaused :=
  RunState.is_paused_apply o.state (o.entry kind node message level)

/-- An event that fits the stage can be entered. -/
theorem Follows.record (h : o.Follows r plan stage) (haborted : kind ≠ .runAborted)
    (hstarted : kind ≠ .taskStarted)
    (hstep : LogStep r plan (plan.guardContext o.surrounding) o.events stage
      (o.entry kind node message level) next) :
    (o.record kind node message level).Follows r plan next where
  log := .step h.log hstep
  state := by
    rw [Orchestrator.record, replay_concat, ← h.state]
  aborted := by
    simpa [Orchestrator.record, haborted] using h.aborted
  asked := by
    have hsame : startedIds (o.record kind node message level).events = startedIds o.events :=
      started_ids_concat_of_ne hstarted
    rw [hsame]
    exact h.asked

/-- Events that do not speak of a pause leave the gate as it is. -/
theorem Gated.record (h : o.Gated r) (hkind : kind.pausing? = none) :
    (o.record kind node message level).Gated r := by
  have hsame : (o.record kind node message level).state.isPaused = o.state.isPaused := by
    rw [record_is_paused, hkind, Option.getD_none]
  exact ⟨hsame ▸ h.gate, hsame ▸ h.released, hsame ▸ h.woken⟩

/-- An open gate suits a run that is not paused. -/
theorem gated_of_not_paused (hgate : o.gateOpen = true) (hpaused : o.state.isPaused = false) :
    o.Gated r :=
  ⟨by simp [hgate, hpaused], fun _ => hpaused, fun _ => .inr hpaused⟩

theorem Follows.with_clock (h : o.Follows r plan stage) (clock : Clock) :
    { o with clock }.Follows r plan stage :=
  ⟨h.log, h.state, h.aborted, h.asked⟩

theorem Follows.with_phase (h : o.Follows r plan stage) (phase : Phase) :
    { o with phase }.Follows r plan stage :=
  ⟨h.log, h.state, h.aborted, h.asked⟩

theorem Follows.with_gate (h : o.Follows r plan stage) (gateOpen : Bool) :
    { o with gateOpen }.Follows r plan stage :=
  ⟨h.log, h.state, h.aborted, h.asked⟩

/-- A run that was left is not under way. -/
@[simp]
theorem leave_is_running (cause : Option RunBreak) : (o.leave cause).isRunning = false := rfl

theorem Follows.leave (h : o.Follows r plan stage) (cause : Option RunBreak) :
    (o.leave cause).Follows r plan stage :=
  ⟨h.log, h.state, h.aborted, h.asked⟩

/-- A run that may end ends. -/
theorem Follows.finish {cancelled : Bool} (h : o.Follows r plan stage)
    (hends : Ends o.events stage cancelled) : (o.finish cancelled).Tracks r plan := by
  have hlog : (o.record (.runFinished (some cancelled)) none (some (summary o.state cancelled).1)
      (summary o.state cancelled).2).Follows r plan (.ended stage) :=
    h.record (by simp) (by simp) (.finished hends rfl rfl)
  exact ⟨.ended stage, hlog.leave none, .ended, by simp [Orchestrator.finish]⟩

/-- The tasks after a failed one are skipped one by one. -/
theorem Follows.skip_all {skipped : List String}
    (h : o.Follows r plan (.failing visited n skipped remaining)) :
    (remaining.foldl (skipAfter n plan) o).Follows r plan
      (.failing visited n (skipped ++ remaining) []) := by
  induction remaining generalizing o skipped with
  | nil => simpa using h
  | cons id remaining ih =>
      obtain ⟨m, hm, rfl⟩ : ∃ m, plan.graph.node? m.id = some m ∧ m.id = id :=
        RunPlan.exists_node_of_mem_order (h.log.order_eq ▸ by simp [Stage.ahead])
      have hnext : (skipAfter n plan o m.id).Follows r plan
          (.failing visited n (skipped ++ [m.id]) remaining) :=
        h.record (by simp) (by simp) (.skipped rfl (by simp [entry, hm]))
      simpa using ih hnext

/-- A task that fails ends its run. -/
theorem Follows.fail (h : o.Follows r plan (.working visited n remaining)) (result : WorkResult) :
    (o.fail plan n result remaining).Tracks r plan := by
  have hfailed : ∀ words, (o.record (.taskFailed {
      durationMs := some result.durationMs, output := some result.output, error := result.error })
      (some n) (some words) .error).Follows r plan (.failing visited n [] remaining) :=
    fun words => h.record (by simp) (by simp) (.failed rfl rfl)
  exact (hfailed _).skip_all.finish .failed

end Writing

section GoingOn

/-- The work on the next task begins when its guard lets it. -/
theorem Follows.begin (h : o.Follows r plan (.between visited (n.id :: remaining)))
    (hgated : o.Gated r) (haborted : o.aborted = false)
    (hpause : r.latePauses = true ∨ o.state.isPaused = false)
    (hnode : plan.graph.node? n.id = some n)
    (hguard : guardRefusal n.condition (plan.guardContext o.surrounding) = .ok none) :
    (o.begin plan n remaining).Tracks r plan := by
  let e := o.entry .taskStarted (some n) (some ("Starting task: " ++ n.name)) .info
  let entered := o.record .taskStarted (some n) (some ("Starting task: " ++ n.name)) .info
  have hids : startedIds (o.events ++ [e]) = startedIds o.events ++ [n.id] :=
    started_ids_concat_self rfl rfl
  -- the start that is recorded and the request to the work are about the same task
  have hasked : o.asked ++ [plan.request n] = (startedIds (o.events ++ [e])).filterMap
      fun id => (plan.graph.node? id).map plan.request := by
    rw [hids, List.filterMap_append, ← h.asked]
    simp [hnode]
  have hbegun : { entered with
      clock := entered.clock.tick, asked := entered.asked ++ [plan.request n] }.Follows r plan
        (.working visited n remaining) := {
    log := .step h.log (.began (fun hlog => by simp [h.aborted.2 hlog] at haborted)
      (h.state ▸ hpause) hnode hguard rfl rfl)
    state := (replay_concat o.events e ▸ congrArg (RunState.apply · e) h.state :)
    aborted := by simpa [entered, Orchestrator.record] using h.aborted
    asked := hasked }
  rw [Orchestrator.begin]
  split
  · have hgated' : entered.Gated r := hgated.record rfl
    exact ⟨_, hbegun.with_phase _, .working, fun _ =>
      ⟨hgated'.gate, hgated'.released, by simp [isWoken]⟩⟩
  · exact (hbegun.with_clock _).fail _

/-- A task behind the gate has its turn. -/
theorem Follows.enter {next : Orchestrator → Orchestrator}
    (h : o.Follows r plan (.between visited (id :: remaining))) (hgated : o.Gated r)
    (hpause : r.latePauses = true ∨ o.state.isPaused = false)
    (hnext : ∀ o', o'.Follows r plan (.between (visited ++ [id]) remaining) → o'.Gated r →
      (next o').Tracks r plan) :
    (enter plan id remaining next o).Tracks r plan := by
  obtain ⟨n, hnode, rfl⟩ : ∃ n, plan.graph.node? n.id = some n ∧ n.id = id :=
    RunPlan.exists_node_of_mem_order (h.log.order_eq ▸ by simp [Stage.ahead])
  rw [Orchestrator.enter]
  split
  · next haborted => exact h.finish (.cancelled (h.aborted.1 haborted))
  · next haborted =>
      simp only [hnode]
      split
      · -- a guard that cannot be evaluated breaks the run off without an end
        exact ⟨_, h.leave _, .broken, by simp⟩
      · next refusal hguard =>
          refine hnext _ (h.record (by simp) (by simp)
            (.passed (fun hlog => haborted (h.aborted.2 hlog)) hnode hguard rfl rfl))
            (hgated.record rfl)
      · next hguard =>
          exact h.begin hgated (by simpa using haborted) hpause hnode hguard

/-- The remaining tasks have their turns until the run has to wait. -/
theorem Follows.visit (h : o.Follows r plan (.between visited remaining)) (hgated : o.Gated r) :
    (visit plan remaining o).Tracks r plan := by
  induction remaining generalizing o visited with
  | nil => exact h.finish .all
  | cons id remaining ih =>
      rw [Orchestrator.visit]
      split
      · next hopen =>
          refine h.enter hgated (.inr ?_) fun o' h' hgated' => ih h' hgated'
          simpa [hgated.gate] using hopen
      · exact ⟨_, h.with_phase _, .atGate, fun _ =>
          ⟨hgated.gate, hgated.released, by simp [isWoken]⟩⟩

/-- A run is started. -/
theorem start_tracks {idle : Orchestrator} (h : idle.start plan = .ok o) : o.Tracks r plan := by
  rw [start] at h
  split at h
  · cases h
  · obtain rfl := Except.ok.inj h
    refine Follows.visit ⟨.started rfl rfl, rfl, ?_, ?_⟩
      (gated_of_not_paused rfl record_is_paused)
    · simp [Orchestrator.record]
    · simp [Orchestrator.record, startedIds]

end GoingOn

section Moves

/-- What is known of a run that waits at the gate. -/
theorem Tracks.at_gate {p : RunPlan} {woken : Bool} (h : o.Tracks r plan)
    (hphase : o.phase = .atGate p woken remaining) : p = plan ∧ remaining ≠ [] ∧
      ∃ visited, o.Follows r plan (.between visited remaining) ∧ o.Gated r := by
  obtain ⟨stage, hfollows, hwaits, hgated⟩ := h
  rw [hphase] at hwaits
  cases hwaits with
  | atGate => exact ⟨rfl, by simp, _, hfollows, hgated (by simp [isRunning, hphase])⟩

/-- What is known of a run that waits for work. -/
theorem Tracks.working {p : RunPlan} {begun : Timestamp} (h : o.Tracks r plan)
    (hphase : o.phase = .working p n begun remaining) : p = plan ∧
      ∃ visited, o.Follows r plan (.working visited n remaining) ∧ o.Gated r := by
  obtain ⟨stage, hfollows, hwaits, hgated⟩ := h
  rw [hphase] at hwaits
  cases hwaits with
  | working => exact ⟨rfl, _, hfollows, hgated (by simp [isRunning, hphase])⟩

/-- What is known of a run that returned. -/
theorem Tracks.ended (h : o.Tracks r plan) (hphase : o.phase = .idle none) :
    ∃ last, o.Follows r plan (.ended last) := by
  obtain ⟨stage, hfollows, hwaits, -⟩ := h
  rw [hphase] at hwaits
  cases hwaits with
  | ended => exact ⟨_, hfollows⟩

/-- What is known of a run that is under way. -/
theorem Tracks.running (h : o.Tracks r plan) (hrunning : o.isRunning = true) :
    ∃ stage, stage.isOpen = true ∧ o.Follows r plan stage ∧ WaitsAt plan o.phase stage ∧
      o.Gated r := by
  obtain ⟨stage, hfollows, hwaits, hgated⟩ := h
  refine ⟨stage, ?_, hfollows, hwaits, hgated hrunning⟩
  generalize hphase : o.phase = phase at hwaits
  cases hwaits with
  | atGate | working => rfl
  | ended | broken => simp [isRunning, hphase] at hrunning

/-- A run goes on from the gate. -/
theorem Tracks.wake (h : o.Tracks r plan) : o.wake.Tracks r plan := by
  rw [Orchestrator.wake]
  split
  · next hphase =>
      obtain ⟨rfl, -, visited, hfollows, hgated⟩ := h.at_gate hphase
      split
      · next hopen =>
          refine hfollows.enter hgated ?_ fun o' h' hgated' => h'.visit hgated'
          rcases Bool.or_eq_true_iff.1 hopen with hopen | hopen
          · exact hgated.woken (by simp [isWoken, hphase, hopen])
          · exact .inr (by simpa [hgated.gate] using hopen)
      · exact h
  · exact h

theorem Tracks.report (h : o.Tracks r plan) (line : String) : (o.report line).Tracks r plan := by
  rw [Orchestrator.report]
  split
  · next hphase =>
      obtain ⟨rfl, visited, hfollows, hgated⟩ := h.working hphase
      refine ⟨_, hfollows.record (by simp) (by simp) (.output rfl rfl), ?_,
        fun _ => hgated.record rfl⟩
      exact hphase ▸ .working
  · exact h

theorem Tracks.stray (h : o.Tracks r plan) (hr : r.strays = true) (hrunning : o.isRunning = true)
    (n : Node) (line : String) : (o.enterLine n line).Tracks r plan := by
  obtain ⟨stage, hopen, hfollows, hwaits, hgated⟩ := h.running hrunning
  exact ⟨stage, hfollows.record (by simp) (by simp) (.stray hr hopen rfl), hwaits,
    fun _ => hgated.record rfl⟩

/-- The result of work is entered, and the run goes on. -/
theorem Follows.conclude (h : o.Follows r plan (.working visited n remaining)) (hgated : o.Gated r)
    (result : WorkResult) : (o.conclude plan n remaining result).Tracks r plan := by
  rw [Orchestrator.conclude]
  split
  · exact (h.record (by simp) (by simp) (.completed rfl rfl)).visit (hgated.record rfl)
  · exact h.fail result

theorem Tracks.finishWork (h : o.Tracks r plan) (ending : WorkEnd) :
    (o.finishWork ending).Tracks r plan := by
  rw [Orchestrator.finishWork]
  split
  · next plan' n begun remaining hphase =>
      obtain ⟨rfl, visited, hfollows, hgated⟩ := h.working hphase
      have hfailing : ∀ words, ({ o with clock := o.clock.tick }.conclude plan' n remaining
          (o.failedResult begun words)).Tracks r plan' := fun words =>
        (hfollows.with_clock o.clock.tick).conclude ⟨hgated.gate, hgated.released, hgated.woken⟩ _
      cases ending with
      | returned result => exact hfollows.conclude hgated result
      | failed failure => exact hfailing _
      | expired => exact hfailing _
      | calledOff => exact ⟨_, hfollows.leave _, .broken, by simp⟩
  · exact h

end Moves

section Controls

/-- An obeyed pause. -/
def paused (o : Orchestrator) : Orchestrator :=
  { o with gateOpen := false }.record .runPaused none (some "Execution paused") .warn

/-- An obeyed call to go on. -/
def resumed (o : Orchestrator) : Orchestrator :=
  (o.record .runResumed none (some "Execution resumed") .info).openGate

/-- An obeyed call to abort. -/
def cancelled (o : Orchestrator) : Orchestrator :=
  ({ o with aborted := true }.record .runAborted none (some "Execution cancelled by user")
    .warn).openGate

/-- What a call leaves of a run that is under way. -/
theorem obey_cases (hrunning : o.isRunning = true) (p : RunPlan) (c : Control) :
    (o.obey p c).1 = o ∨
    (c = .pause ∧ o.state.isPaused = false ∧ o.aborted = false ∧ (o.obey p c).1 = o.paused) ∨
    (c = .resume ∧ o.state.isPaused = true ∧ (o.obey p c).1 = o.resumed) ∨
    (c = .abort ∧ o.aborted = false ∧ (o.obey p c).1 = o.cancelled) := by
  cases c <;> cases hpaused : o.state.isPaused <;> cases haborted : o.aborted <;>
    simp [obey, pause, resume, abort, reset, start, hrunning, hpaused, haborted, paused, resumed,
      cancelled]

/-- An opened gate lets a run wait where it waited. -/
theorem WaitsAt.open_gate (h : WaitsAt plan o.phase stage) :
    WaitsAt plan o.openGate.phase stage := by
  rw [openGate]
  generalize o.phase = phase at h
  cases h with
  | atGate => exact .atGate
  | working => exact .working
  | ended => exact .ended
  | broken => exact .broken

theorem Follows.open_gate (h : o.Follows r plan stage) : o.openGate.Follows r plan stage :=
  ⟨h.log, h.state, h.aborted, h.asked⟩

/-- An abort can be entered where it fits the stage. -/
theorem Follows.abort (h : o.Follows r plan stage)
    (hstep : LogStep r plan (plan.guardContext o.surrounding) o.events stage
      (o.entry .runAborted none message level) next) :
    ({ o with aborted := true }.record .runAborted none message level).Follows r plan next where
  log := .step h.log hstep
  state := by
    rw [Orchestrator.record, replay_concat, ← h.state]
  aborted := by simp [Orchestrator.record]
  asked := by
    have hsame : startedIds ({ o with aborted := true }.record .runAborted none message
        level).events = startedIds o.events := started_ids_concat_of_ne (by simp)
    rw [hsame]
    exact h.asked

theorem Tracks.control (h : o.Tracks r plan) (hrunning : o.isRunning = true) {c : Control}
    (hallowed : (Move.control c).IsAllowed r o) (p : RunPlan) :
    (o.obey p c).1.Tracks r plan := by
  obtain ⟨stage, hopen, hfollows, hwaits, hgated⟩ := h.running hrunning
  have hstep : ∀ kind : EventKind, ∀ message level, kind.isControl = true → o.aborted = false →
      LogStep r plan (plan.guardContext o.surrounding) o.events stage
        (o.entry kind none message level) stage :=
    fun kind message level hkind haborted =>
      .control hopen (fun hlog => by simp [hfollows.aborted.2 hlog] at haborted) hkind rfl
  rcases obey_cases hrunning p c with heq | ⟨rfl, hpaused, haborted, heq⟩ | ⟨rfl, hpaused, heq⟩ |
    ⟨rfl, haborted, heq⟩
  · rwa [heq]
  · rw [heq]
    have hlog : o.paused.Follows r plan stage :=
      (hfollows.with_gate false).record (by simp) (by simp) (hstep _ _ _ rfl haborted)
    have hpaused' : o.paused.state.isPaused = true := record_is_paused
    -- a pause that comes while the run is woken is one that rules let come late
    refine ⟨stage, hlog, hwaits, fun _ => ⟨?_, ?_, ?_⟩⟩
    · rw [hpaused']
      rfl
    · exact fun haborted' => Bool.noConfusion (haborted'.symm.trans haborted)
    · exact fun hwoken : o.isWoken = true => .inl (hallowed.resolve_right (by simp [hwoken]))
  · rw [heq]
    have haborted : o.aborted = false := by
      by_contra hnot
      simp [hgated.released (by simpa using hnot)] at hpaused
    have hlog : (o.record .runResumed none (some "Execution resumed") .info).Follows r plan stage :=
      hfollows.record (by simp) (by simp) (hstep _ _ _ rfl haborted)
    exact ⟨stage, hlog.open_gate, hwaits.open_gate, fun _ =>
      gated_of_not_paused rfl record_is_paused⟩
  · rw [heq]
    exact ⟨stage, (hfollows.abort (hstep _ _ _ rfl haborted)).open_gate, hwaits.open_gate, fun _ =>
      gated_of_not_paused rfl record_is_paused⟩

end Controls

end Orchestrator

/-- Every run is carried out. -/
theorem Reached.tracks {r : Rules} {plan : RunPlan} {o : Orchestrator} (h : Reached r plan o) :
    o.Tracks r plan := by
  induction h with
  | started h => exact start_tracks h
  | @moved o _ m hm ih =>
      by_cases hrunning : o.isRunning = true
      · cases m <;> simp only [Move.apply, hrunning, if_true]
        case report line => exact ih.report line
        case stray n line => exact ih.stray hm hrunning n line
        case finish ending => exact ih.finishWork ending
        case wake => exact ih.wake
        case control c => exact ih.control hrunning hm plan
      · cases m <;> simpa [Move.apply, hrunning] using ih

end BuildGraph
