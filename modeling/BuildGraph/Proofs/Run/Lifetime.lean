import BuildGraph.Proofs.Graph.Accepted
import BuildGraph.Proofs.Run.Reached

/-!
# The lifetime of an orchestrator

An orchestrator carries out one run after another, and calls come to it at any time, accepted or
refused. `Lives` are the states in which it waits. Between two of them the log only grows by events
of the run under way (`GoesOn`), and each of them is blank or one that a run of a plan comes to
(`Lives.blank_or_reached`). From that `lifetime_spec` says what an orchestrator tells about itself:
the state is what the log comes to, the log belongs to one run, refused calls change nothing, and
what the state says of running and pausing is so.

A run that a guard breaks off leaves a state that still says it is running: `stranded_by_guard`.
-/

namespace BuildGraph

open Orchestrator

/-- What happens to an orchestrator from outside. -/
inductive Happening where
  /-- A call comes. A run begins with a plan. -/
  | call (plan : RunPlan) (c : Control)
  /-- The work under way reports a line. -/
  | report (line : String)
  /-- The work under way ends. -/
  | finish (ending : WorkEnd)
  /-- The run goes on from the gate, if it can. -/
  | wake

/-- The orchestrator afterwards. Without a run under way there is no work and nobody at the gate. -/
def Happening.apply (o : Orchestrator) : Happening → Orchestrator
  | call plan c => (o.obey plan c).1
  | report line => o.report line
  | finish ending => o.finishWork ending
  | wake => o.wake

/-- The states in which an orchestrator waits, as long as no run is called off. -/
inductive Lives : Orchestrator → Prop
  | fresh (clock : Clock) (surrounding : TextTable) : Lives { clock, surrounding }
  | after {o : Orchestrator} (h : Lives o) (x : Happening) (hx : x ≠ .finish .calledOff) :
      Lives (x.apply o)

/-- Why a call is refused, if it is: some calls need a run under way, and the others need none. -/
def Control.refusal? (running : Bool) : Control → Option RunError
  | run | reset => if running then some .inProgress else none
  | pause => if running then none else some (.notActive "pause")
  | resume => if running then none else some (.notActive "resume")
  | abort => if running then none else some (.notActive "abort")

namespace Orchestrator

/-- The last run was broken off by a guard that cannot be evaluated, and its log is still there. -/
def IsStranded (o : Orchestrator) : Prop :=
  o.events ≠ [] ∧ ∃ fault, o.phase = .idle (some (.guard fault))

/-- What the state says of running and pausing is so. -/
structure TellsTruth (o : Orchestrator) : Prop where
  running_iff : o.isRunning = true ↔ o.state.isRunning = true
  /-- Only a run that is under way and not aborted is paused. -/
  of_paused : o.state.isPaused = true → o.isRunning = true ∧ o.aborted = false
  /-- The gate is closed during a pause alone. -/
  paused_iff : o.state.isPaused = true ↔ o.gateOpen = false

/-- An orchestrator without a run has its gate open, and no run was called off. -/
def Rests (o : Orchestrator) : Prop :=
  ∀ broken, o.phase = .idle broken → o.gateOpen = true ∧ broken ≠ some .calledOff

/-- A run goes on: it keeps its number, and its log grows by events of its own. -/
structure GoesOn (o next : Orchestrator) : Prop where
  runs : next.runs = o.runs
  events : ∃ more, next.events = o.events ++ more ∧ ∀ e ∈ more, e.run = o.runs
  rests : o.Rests → next.Rests

variable {plan : RunPlan} {o next last : Orchestrator}

section Calls

/-- Calls are refused by whether a run is under way, and a refused call changes nothing. -/
theorem obey_refusal (o : Orchestrator) (plan : RunPlan) (c : Control) :
    (o.obey plan c).2 = c.refusal? o.isRunning ∧
      (c.refusal? o.isRunning ≠ none → (o.obey plan c).1 = o) := by
  cases c <;> cases hrunning : o.isRunning <;> cases hpaused : o.state.isPaused <;>
    cases haborted : o.aborted <;>
    simp [obey, Control.refusal?, pause, resume, abort, reset, start, hrunning, hpaused, haborted]

end Calls

section Going

theorem GoesOn.refl (o : Orchestrator) : GoesOn o o := ⟨rfl, ⟨[], by simp⟩, id⟩

theorem GoesOn.trans (h : GoesOn o next) (h' : GoesOn next last) : GoesOn o last := by
  obtain ⟨more, hmore, hown⟩ := h.events
  obtain ⟨more', hmore', hown'⟩ := h'.events
  refine ⟨h'.runs.trans h.runs, ⟨more ++ more', by rw [hmore', hmore, List.append_assoc], ?_⟩,
    h'.rests ∘ h.rests⟩
  exact List.forall_mem_append.2 ⟨hown, fun e he => (hown' e he).trans h.runs⟩

/-- An event bears the number of the run. -/
theorem GoesOn.record (h : GoesOn o next) (kind : EventKind) (node : Option Node)
    (message : Option String) (level : LogLevel) :
    GoesOn o (next.record kind node message level) :=
  h.trans ⟨rfl, ⟨[next.entry kind node message level], rfl, by simp [entry]⟩, fun hrests => hrests⟩

/-- What is neither the log nor the number of a run may change, as long as the orchestrator rests
when it has no run. -/
theorem GoesOn.quietly (h : GoesOn o next) (hruns : last.runs = next.runs)
    (hevents : last.events = next.events) (hrests : next.Rests → last.Rests) : GoesOn o last :=
  h.trans ⟨hruns, ⟨[], by simp [hevents]⟩, hrests⟩

theorem GoesOn.leave (h : GoesOn o next) {broken : Option RunBreak}
    (hbroken : broken ≠ some .calledOff) : GoesOn o (next.leave broken) := by
  refine h.quietly rfl rfl fun _ cause hcause => ⟨rfl, ?_⟩
  obtain rfl := Phase.idle.inj hcause
  exact hbroken

theorem GoesOn.with_clock (h : GoesOn o next) (clock : Clock) :
    GoesOn o { next with clock } :=
  h.quietly rfl rfl fun hrests => hrests

theorem GoesOn.finish (h : GoesOn o next) (cancelled : Bool) : GoesOn o (next.finish cancelled) :=
  (h.record _ _ _ _).leave (by simp)

theorem GoesOn.skip_all (h : GoesOn o next) (n : Node) (remaining : List String) :
    GoesOn o (remaining.foldl (skipAfter n plan) next) := by
  induction remaining generalizing next with
  | nil => exact h
  | cons id remaining ih => exact ih (h.record _ _ _ _)

theorem GoesOn.fail (h : GoesOn o next) (n : Node) (result : WorkResult)
    (remaining : List String) : GoesOn o (next.fail plan n result remaining) :=
  ((h.record _ _ _ _).skip_all n remaining).finish false

theorem GoesOn.begin (h : GoesOn o next) (n : Node) (remaining : List String) :
    GoesOn o (next.begin plan n remaining) := by
  let entered := next.record .taskStarted (some n) (some ("Starting task: " ++ n.name)) .info
  have hasked : GoesOn o { entered with
      clock := entered.clock.tick, asked := entered.asked ++ [plan.request n] } :=
    (h.record _ _ _ _).quietly rfl rfl fun hrests => hrests
  rw [Orchestrator.begin]
  split
  · refine hasked.quietly rfl rfl fun _ broken hbroken => ?_
    cases hbroken
  · exact (hasked.with_clock _).fail n _ remaining

theorem GoesOn.enter {go : Orchestrator → Orchestrator} (h : GoesOn o next)
    (hgo : ∀ next, GoesOn o next → GoesOn o (go next)) (id : String) (remaining : List String) :
    GoesOn o (enter plan id remaining go next) := by
  rw [Orchestrator.enter]
  split
  · exact h.finish true
  · split
    · exact hgo _ h
    · split
      · exact h.leave (by simp)
      · exact hgo _ (h.record _ _ _ _)
      · exact h.begin _ remaining

theorem GoesOn.visit (h : GoesOn o next) (remaining : List String) :
    GoesOn o (visit plan remaining next) := by
  induction remaining generalizing next with
  | nil => exact h.finish false
  | cons id remaining ih =>
      rw [Orchestrator.visit]
      split
      · exact h.enter (fun _ => ih) id remaining
      · refine h.quietly rfl rfl fun _ broken hbroken => ?_
        cases hbroken

theorem GoesOn.conclude (h : GoesOn o next) (n : Node) (remaining : List String)
    (result : WorkResult) : GoesOn o (next.conclude plan n remaining result) := by
  rw [Orchestrator.conclude]
  split
  · exact (h.record _ _ _ _).visit remaining
  · exact h.fail n result remaining

theorem goes_on_wake (o : Orchestrator) : GoesOn o o.wake := by
  rw [wake]
  split
  · split
    · exact (GoesOn.refl o).enter (fun _ h => h.visit _) _ _
    · exact .refl o
  · exact .refl o

theorem goes_on_report (o : Orchestrator) (line : String) : GoesOn o (o.report line) := by
  rw [report]
  split
  · exact (GoesOn.refl o).record _ _ _ _
  · exact .refl o

theorem goes_on_finish_work (o : Orchestrator) {ending : WorkEnd} (hending : ending ≠ .calledOff) :
    GoesOn o (o.finishWork ending) := by
  rw [finishWork]
  split
  · next plan n started remaining _ =>
      have hfailing : ∀ words, GoesOn o ({ o with clock := o.clock.tick }.conclude plan n remaining
          (o.failedResult started words)) := fun words =>
        ((GoesOn.refl o).with_clock _).conclude n remaining _
      cases ending with
      | returned result => exact (GoesOn.refl o).conclude n remaining result
      | failed failure => exact hfailing _
      | expired => exact hfailing _
      | calledOff => exact absurd rfl hending
  · exact .refl o

theorem GoesOn.open_gate (h : GoesOn o next) : GoesOn o next.openGate := by
  refine h.quietly rfl rfl fun hrests broken hbroken => ⟨rfl, ?_⟩
  rw [openGate] at hbroken
  split at hbroken
  · cases hbroken
  · exact (hrests broken hbroken).2

/-- A run goes on through every call. -/
theorem goes_on_obey (hrunning : o.isRunning = true) (c : Control) :
    GoesOn o (o.obey plan c).1 := by
  have hclosed : GoesOn o { o with gateOpen := false } :=
    (GoesOn.refl o).quietly rfl rfl fun _ broken hbroken => by
      rw [isRunning, show o.phase = .idle broken from hbroken] at hrunning
      cases hrunning
  have haborted : GoesOn o { o with aborted := true } :=
    (GoesOn.refl o).quietly rfl rfl fun hrests => hrests
  rcases obey_cases hrunning plan c with heq | ⟨-, -, -, heq⟩ | ⟨-, -, heq⟩ | ⟨-, -, heq⟩ <;>
    rw [heq]
  · exact .refl o
  · exact hclosed.record _ _ _ _
  · exact ((GoesOn.refl o).record _ _ _ _).open_gate
  · exact (haborted.record _ _ _ _).open_gate

/-- An orchestrator rests without a run, and its log belongs to the last run. -/
structure Orderly (o : Orchestrator) : Prop where
  rests : o.Rests
  one_run : ∀ e ∈ o.events, e.run = o.runs

theorem GoesOn.orderly (h : GoesOn o next) (ho : o.Orderly) : next.Orderly := by
  obtain ⟨more, hmore, hown⟩ := h.events
  refine ⟨h.rests ho.rests, ?_⟩
  rw [hmore, h.runs]
  exact List.forall_mem_append.2 ⟨ho.one_run, hown⟩

/-- A run starts with a log of its own. -/
theorem Orderly.start (ho : o.Orderly) (h : o.start plan = .ok next) : next.Orderly := by
  rw [Orchestrator.start] at h
  split at h
  · cases h
  · obtain rfl := Except.ok.inj h
    have hfresh : Orderly { o with
        runs := o.runs + 1, aborted := false, gateOpen := true, events := [], state := {},
        asked := [] } :=
      ⟨fun broken hbroken => ⟨rfl, (ho.rests broken hbroken).2⟩, by simp⟩
    exact (((GoesOn.refl _).record _ _ _ _).visit _).orderly hfresh

/-- Without a run only a new run and a reset are obeyed. -/
theorem obey_idle_cases (hidle : o.isRunning = false) (plan : RunPlan) (c : Control) :
    (o.obey plan c).1 = o ∨ o.start plan = .ok (o.obey plan c).1 ∨
      (o.obey plan c).1 = { o with events := [], state := {} } := by
  cases c <;> simp [obey, pause, resume, abort, reset, Orchestrator.start, hidle]

end Going

end Orchestrator

section Lives

variable {o : Orchestrator}

theorem Lives.orderly (h : Lives o) : o.Orderly := by
  induction h with
  | fresh clock surrounding =>
      refine ⟨fun broken hbroken => ⟨rfl, ?_⟩, by simp⟩
      obtain rfl : none = broken := Phase.idle.inj hbroken
      simp
  | @after o h x hx ih =>
      cases x with
      | report line => exact (goes_on_report o line).orderly ih
      | finish ending => exact (goes_on_finish_work o fun heq => hx (heq ▸ rfl)).orderly ih
      | wake => exact (goes_on_wake o).orderly ih
      | call plan c =>
          rw [Happening.apply]
          cases hrunning : o.isRunning with
          | true => exact (goes_on_obey hrunning c).orderly ih
          | false =>
              rcases obey_idle_cases hrunning plan c with heq | hstart | heq
              · rwa [heq]
              · exact ih.start hstart
              · rw [heq]
                exact ⟨ih.rests, by simp⟩

/-- Nothing is known of a run. -/
structure Orchestrator.IsBlank (o : Orchestrator) : Prop where
  idle : o.isRunning = false
  events : o.events = []
  state : o.state = {}

/-- What happens without a run, calls apart, changes nothing. -/
theorem Happening.apply_of_idle (hidle : o.isRunning = false) {x : Happening}
    (hx : ∀ plan c, x ≠ .call plan c) : x.apply o = o := by
  cases x with
  | call plan c => exact absurd rfl (hx plan c)
  | report | finish | wake =>
      rw [isRunning] at hidle
      split at hidle
      · next hphase =>
          simp [Happening.apply, Orchestrator.report, Orchestrator.finishWork, Orchestrator.wake,
            hphase]
      · cases hidle

/-- What happens to a run under way are moves of the run, whatever the plan of a call. -/
theorem Happening.exists_move (hrunning : o.isRunning = true) (x : Happening) (plan : RunPlan) :
    ∃ m : Move, m.IsAllowed ⟨false, true⟩ o ∧ x.apply o = m.apply plan o := by
  cases x with
  | report line => exact ⟨.report line, trivial, by simp [Move.apply, hrunning, apply]⟩
  | finish ending => exact ⟨.finish ending, trivial, by simp [Move.apply, hrunning, apply]⟩
  | wake => exact ⟨.wake, trivial, by simp [Move.apply, hrunning, apply]⟩
  | call other c =>
      have hsame : (o.obey other c).1 = (o.obey plan c).1 := by
        cases c <;> simp [obey, Orchestrator.start, hrunning]
      refine ⟨.control c, ?_, by simp [Move.apply, hrunning, apply, hsame]⟩
      cases c with
      | pause => exact .inl rfl
      | _ => trivial

/-- An orchestrator is blank or carries out a run, or has carried it out. -/
theorem Lives.blank_or_reached (h : Lives o) :
    o.IsBlank ∨ ∃ plan, Reached ⟨false, true⟩ plan o := by
  induction h with
  | fresh clock surrounding => exact .inl ⟨rfl, rfl, rfl⟩
  | @after o h x hx ih =>
      cases hrunning : o.isRunning with
      | true =>
          rcases ih with hblank | ⟨plan, hreached⟩
          · simp [hblank.idle] at hrunning
          · obtain ⟨m, hallowed, heq⟩ := x.exists_move hrunning plan
            exact .inr ⟨plan, heq ▸ hreached.moved m hallowed⟩
      | false =>
          by_cases hcall : ∃ plan c, x = .call plan c
          · obtain ⟨plan, c, rfl⟩ := hcall
            rw [Happening.apply]
            rcases obey_idle_cases hrunning plan c with heq | hstart | heq
            · rwa [heq]
            · exact .inr ⟨plan, .started hstart⟩
            · rw [heq]
              exact .inl ⟨hrunning, rfl, rfl⟩
          · rw [Happening.apply_of_idle hrunning fun plan c heq => hcall ⟨plan, c, heq⟩]
            exact ih

end Lives

section Running

/-- What an event makes of whether a run is under way. -/
def EventKind.running? : EventKind → Option Bool
  | runStarted .. => some true
  | runFinished _ | reset => some false
  | _ => none

theorem RunState.is_running_apply (s : RunState) (e : Event) :
    (s.apply e).isRunning = e.kind.running?.getD s.isRunning := by
  have h : (s.apply e).isRunning = (s.applyKind e).isRunning := by
    rw [apply]
    split <;> rfl
  rw [h, applyKind]
  cases e.kind <;> rfl

/-- The state that a log comes to says that the run is under way until it ends. -/
theorem RunLog.is_running_iff {r : Rules} {plan : RunPlan} {context : GuardContext}
    {log : List Event} {stage : Stage} (h : RunLog r plan context log stage) :
    (replay log).isRunning = true ↔ ∀ last, stage ≠ .ended last := by
  induction h with
  | @started e names hkind =>
      simp [replay, RunState.is_running_apply, hkind, EventKind.running?]
  | @step log stage e next h hstep ih =>
      rw [replay_concat, RunState.is_running_apply]
      have hbefore : (replay log).isRunning = true := by
        rw [ih]
        rintro last rfl
        exact hstep.not_ended
      -- controls and lines leave both sides as they are
      have hquiet : e.kind.running? = none → ((e.kind.running?.getD (replay log).isRunning) = true ↔
          ∀ last, stage ≠ .ended last) := fun hnone => by
        rw [hnone, Option.getD_none, ih]
      cases hstep with
      | control _ _ hkind =>
          exact hquiet (by cases hk : e.kind <;> simp_all [EventKind.isControl, EventKind.running?])
      | output hkind | stray _ _ hkind =>
          exact hquiet (by cases hk : e.kind <;> simp_all [EventKind.isOutput, EventKind.running?])
      | passed _ _ _ hkind | began _ _ _ _ hkind | completed hkind | failed hkind
      | skipped hkind | finished _ hkind => simp [hkind, EventKind.running?, hbefore]

end Running

section Truth

variable {plan : RunPlan} {o : Orchestrator}

/-- A run under way tells the truth. -/
theorem Orchestrator.Tracks.tells_truth {r : Rules} (h : o.Tracks r plan)
    (hrunning : o.isRunning = true) : o.TellsTruth := by
  obtain ⟨stage, hopen, hfollows, -, hgated⟩ := h.running hrunning
  have hstate : o.state.isRunning = true := by
    rw [hfollows.state, hfollows.log.is_running_iff]
    rintro last rfl
    cases hopen
  refine ⟨iff_of_true hrunning hstate, fun hpaused => ⟨hrunning, ?_⟩, ?_⟩
  · by_contra haborted
    simp [hgated.released (by simpa using haborted)] at hpaused
  · simp [hgated.gate]

/-- An orchestrator that rests tells the truth when its state says neither. -/
theorem Orchestrator.tells_truth_of_idle (hidle : o.isRunning = false) (hgate : o.gateOpen = true)
    (hrunning : o.state.isRunning = false) (hpaused : o.state.isPaused = false) : o.TellsTruth :=
  ⟨by simp [hidle, hrunning], by simp [hpaused], by simp [hgate, hpaused]⟩

/-- A run that returned tells the truth. -/
theorem Orchestrator.Tracks.tells_truth_of_ended {r : Rules} (h : o.Tracks r plan)
    (hphase : o.phase = .idle none) (hgate : o.gateOpen = true) : o.TellsTruth := by
  obtain ⟨last, hlog, hstate, -, -⟩ := h.ended hphase
  obtain ⟨front, e, cancelled, hevents, -, -, hkind⟩ := hlog.ended
  have happly : o.state = (replay front).apply e := by rw [hstate, hevents, replay_concat]
  refine tells_truth_of_idle (by rw [isRunning, hphase]) hgate ?_ ?_
  · rw [happly, RunState.is_running_apply, hkind, EventKind.running?, Option.getD_some]
  · rw [happly, RunState.is_paused_apply, hkind, EventKind.pausing?, Option.getD_some]

/-- Unless a guard broke off its last run, an orchestrator tells the truth. -/
theorem Lives.tells_truth (h : Lives o) (hnot : ¬ o.IsStranded) : o.TellsTruth := by
  rcases h.blank_or_reached with hblank | ⟨plan, hreached⟩
  · have hgate : o.gateOpen = true := by
      have hidle := hblank.idle
      rw [isRunning] at hidle
      split at hidle
      · next broken hphase => exact (h.orderly.rests broken hphase).1
      · cases hidle
    exact tells_truth_of_idle hblank.idle hgate (by rw [hblank.state]) (by rw [hblank.state])
  · cases hphase : o.phase with
    | atGate => exact hreached.tracks.tells_truth (by rw [isRunning, hphase])
    | working => exact hreached.tracks.tells_truth (by rw [isRunning, hphase])
    | idle broken =>
        obtain ⟨hgate, hcause⟩ := h.orderly.rests broken hphase
        cases broken with
        | none => exact hreached.tracks.tells_truth_of_ended hphase hgate
        | some cause =>
            cases cause with
            | calledOff => exact absurd rfl hcause
            | guard fault =>
                obtain ⟨stage, hfollows, -⟩ := hreached.tracks
                obtain ⟨first, names, rest, hevents, -⟩ := hfollows.log.head
                exact absurd ⟨by simp [hevents], fault, hphase⟩ hnot

/-- The state is always what the log comes to. -/
theorem Lives.state_eq (h : Lives o) : o.state = replay o.events := by
  rcases h.blank_or_reached with hblank | ⟨plan, hreached⟩
  · rw [hblank.state, hblank.events]
    rfl
  · obtain ⟨stage, hfollows, -⟩ := hreached.tracks
    exact hfollows.state

/-- Whatever calls come to an orchestrator, and whatever its work does: the state is what the log
comes to, all events belong to one run, a call is refused by whether a run is under way and then
changes nothing, and what the state says of running and pausing is so, unless a guard that cannot be
evaluated broke off the last run and its log was not reset since. -/
theorem lifetime_spec (h : Lives o) :
    o.state = replay o.events ∧ (∃ run, ∀ e ∈ o.events, e.run = run) ∧
      (∀ plan c, (o.obey plan c).2 = c.refusal? o.isRunning ∧
        ((o.obey plan c).2 ≠ none → (o.obey plan c).1 = o)) ∧
      (¬ o.IsStranded → o.TellsTruth) := by
  refine ⟨h.state_eq, ⟨o.runs, h.orderly.one_run⟩, fun plan c => ?_, h.tells_truth⟩
  obtain ⟨hrefusal, hsame⟩ := obey_refusal o plan c
  exact ⟨hrefusal, hrefusal ▸ hsame⟩

/-- A second run is refused while the first is paused. -/
theorem lifetime_spec_paused :
    let plan : RunPlan := { graph := {
      nodes := [{ id := "a", name := "first" }, { id := "b", name := "second" }] } }
    let calls := [.call plan .run, .call plan .pause, .call plan .run]
    let o := calls.foldl Happening.apply { clock := .stepping ⟨0, none⟩ 1 }
    o.state = replay o.events ∧ (∃ run, ∀ e ∈ o.events, e.run = run) ∧
      (o.obey plan .run).2 = some .inProgress ∧ o.state.isPaused = true ∧ o.TellsTruth := by
  intro plan calls o
  have hlives : Lives o :=
    (((Lives.fresh (.stepping ⟨0, none⟩ 1) ∅).after (.call plan .run) (by simp)).after
      (.call plan .pause) (by simp)).after (.call plan .run) (by simp)
  obtain ⟨hstate, hrun, hrefusal, htruth⟩ := lifetime_spec hlives
  have hpaused : o.isRunning = true ∧ o.state.isPaused = true := by decide +kernel
  have hnot : ¬ o.IsStranded := by
    rintro ⟨-, fault, hphase⟩
    simp [isRunning, hphase] at hpaused
  exact ⟨hstate, hrun, by rw [(hrefusal plan .run).1, hpaused.1]; rfl, hpaused.2, htruth hnot⟩

/-- An orchestrator whose run a guard broke off is idle, and its state says that the run is under
way. -/
theorem stranded_by_guard :
    let guard : Guard := {
      mode := .onlyIf
      conditions := [⟨⟨.literal, "a"⟩, .matches, ⟨.literal, "a\x7b4294967295\x7d"⟩⟩] }
    let node : Node := { id := "a", name := "first", condition := some guard }
    let plan : RunPlan := { graph := [GraphChange.addNode node].foldl Graph.after Graph.empty }
    let o := (Happening.call plan .run).apply { clock := .stepping ⟨0, none⟩ 1 }
    Lives o ∧ plan.graph.Reachable ∧ o.isRunning = false ∧ o.state.isRunning = true := by
  intro guard node plan o
  refine ⟨(Lives.fresh _ _).after _ (by simp), ⟨_, rfl⟩, ?_⟩
  decide +kernel

end Truth

end BuildGraph
