import BuildGraph.Proofs.Run.Reached
import BuildGraph.Run.Session

/-!
# Sessions carry out runs

Whatever a session does to its orchestrator are moves of a run: the steps of work, the way through
the gate, and the controls from outside. So what is shown of all states that runs come to holds of
sessions, whatever their crews do. `conduct_reached` says so of a session that is conducted by
controls.
-/

namespace BuildGraph.Session

/-- No line comes from work that a session does not wait for. -/
def rules : Rules := ⟨false, true⟩

variable {plan : RunPlan} {s : Session} {o : Orchestrator}

section Moves

theorem reached_report (h : Reached rules plan o) (hrunning : o.isRunning = true) (line : String) :
    Reached rules plan (o.report line) := by
  have hmoved := h.moved (.report line) trivial
  rwa [Move.apply, if_pos hrunning] at hmoved

theorem reached_finish (h : Reached rules plan o) (hrunning : o.isRunning = true)
    (ending : WorkEnd) : Reached rules plan (o.finishWork ending) := by
  have hmoved := h.moved (.finish ending) trivial
  rwa [Move.apply, if_pos hrunning] at hmoved

theorem reached_wake (h : Reached rules plan o) (hrunning : o.isRunning = true) :
    Reached rules plan o.wake := by
  have hmoved := h.moved .wake trivial
  rwa [Move.apply, if_pos hrunning] at hmoved

theorem reached_obey (h : Reached rules plan o) (hrunning : o.isRunning = true) (c : Control) :
    Reached rules plan (o.obey plan c).1 := by
  have hallowed : (Move.control c).IsAllowed rules o := by
    cases c with
    | pause => exact .inl rfl
    | _ => trivial
  have hmoved := h.moved (.control c) hallowed
  rwa [Move.apply, if_pos hrunning] at hmoved

end Moves

section Work

/-- Work is under way. -/
def IsWorking (o : Orchestrator) : Prop := ∃ plan n begun rest, o.phase = .working plan n begun rest

theorem IsWorking.is_running (h : IsWorking o) : o.isRunning = true := by
  obtain ⟨plan, n, begun, rest, hphase⟩ := h
  rw [Orchestrator.isRunning, hphase]

theorem IsWorking.report (h : IsWorking o) (line : String) : IsWorking (o.report line) := by
  obtain ⟨plan, n, begun, rest, hphase⟩ := h
  refine ⟨plan, n, begun, rest, ?_⟩
  rw [Orchestrator.report, hphase]
  exact hphase

/-- A control lets work go on. -/
theorem IsWorking.obey (h : IsWorking o) (p : RunPlan) (c : Control) :
    IsWorking (o.obey p c).1 := by
  have hrunning := h.is_running
  obtain ⟨plan, n, begun, rest, hphase⟩ := h
  refine ⟨plan, n, begun, rest, ?_⟩
  rcases Orchestrator.obey_cases hrunning p c with
    heq | ⟨-, -, -, heq⟩ | ⟨-, -, heq⟩ | ⟨-, -, heq⟩ <;> rw [heq]
  · exact hphase
  · exact hphase
  · simp [Orchestrator.resumed, Orchestrator.openGate, Orchestrator.record, hphase]
  · simp [Orchestrator.cancelled, Orchestrator.openGate, Orchestrator.record, hphase]

/-- Steps of work are moves. -/
theorem work_reached (taskName : String) (ending : WorkEnd) (actions : List WorkAction)
    (h : Reached rules plan s.orchestrator) (hworking : IsWorking s.orchestrator) :
    Reached rules plan (work plan taskName ending actions s).orchestrator := by
  induction actions generalizing s with
  | nil => exact reached_finish h hworking.is_running ending
  | cons action actions ih =>
      cases action with
      | report line => exact ih (reached_report h hworking.is_running line) (hworking.report line)
      | control c => exact ih (reached_obey h hworking.is_running c) (hworking.obey plan c)
      | wait => exact h

end Work

section Steps

/-- What a session goes on with at once are moves. -/
theorem step_reached (h : Reached rules plan s.orchestrator) {next : Session}
    (hstep : s.step? = some next) : Reached rules plan next.orchestrator := by
  obtain ⟨stage, -, hwaits, -⟩ := h.tracks
  rw [step?] at hstep
  split at hstep
  · cases hstep
  · next p woken rest hphase =>
      split at hstep
      · obtain rfl := Option.some.inj hstep
        exact reached_wake h (by rw [Orchestrator.isRunning, hphase])
      · cases hstep
  · next p n begun rest hphase =>
      have hworking : IsWorking s.orchestrator := ⟨p, n, begun, rest, hphase⟩
      -- the plan of a run at work is the one with which the run was begun
      obtain rfl : p = plan := by
        rw [hphase] at hwaits
        cases hwaits
        rfl
      split at hstep
      · cases hstep
      · obtain rfl := Option.some.inj hstep
        exact work_reached _ _ _ h hworking
      · dsimp only at hstep
        split at hstep <;> obtain rfl := Option.some.inj hstep
        · exact reached_finish h hworking.is_running .expired
        · exact work_reached _ _ _ h hworking

theorem steps_reached (n : Nat) (h : Reached rules plan s.orchestrator) :
    Reached rules plan (steps n s).orchestrator := by
  induction n generalizing s with
  | zero => exact h
  | succ n ih =>
      rw [steps]
      split
      · next next hstep => exact ih (step_reached h hstep)
      · exact h

theorem advance_reached (h : Reached rules plan s.orchestrator) :
    Reached rules plan s.advance.orchestrator :=
  steps_reached _ h

end Steps

section Sessions

theorem start_reached {crew : Crew} {begun : Session} (h : s.start plan crew = .ok begun) :
    Reached rules plan begun.orchestrator := by
  rw [start] at h
  cases hstart : s.orchestrator.start plan with
  | error cause =>
      rw [hstart] at h
      cases h
  | ok o =>
      rw [hstart] at h
      obtain rfl := Except.ok.inj h
      exact .started hstart

theorem orchestrator_release (s : Session) : s.release.orchestrator = s.orchestrator := by
  rw [release]
  split <;> rfl

theorem direct_reached (h : Reached rules plan s.orchestrator) (hover : s.isOver = false)
    (c : SessionControl) : Reached rules plan (s.direct plan c).1.orchestrator := by
  cases c with
  | control c => exact reached_obey h (by simpa [isOver] using hover) c
  | release => exact (orchestrator_release s).symm ▸ h
  | look => exact h

/-- A session that is conducted by controls carries out a run, whatever its crew does. -/
theorem conduct_reached {α : Type}
    (view : SessionControl × String → Option RunError → Session → α)
    (controls : List (SessionControl × String)) (h : Reached rules plan s.orchestrator) :
    Reached rules plan (conduct plan view controls s).2.orchestrator := by
  induction controls generalizing s with
  | nil => exact h
  | cons c controls ih =>
      rw [conduct]
      split
      · exact h
      · next hover => exact ih (advance_reached (direct_reached h (by simpa using hover) c.1))

/-- A session that is aborted and led to its end carries out a run. -/
theorem conclude_reached (h : Reached rules plan s.orchestrator) (hover : s.isOver = false) :
    Reached rules plan (s.conclude plan).orchestrator := by
  have hreleases : ∀ (n : Nat) {s : Session}, Reached rules plan s.orchestrator →
      Reached rules plan (releases n s).orchestrator := by
    intro n
    induction n with
    | zero => exact fun h => h
    | succ n ih =>
        intro s h
        rw [releases]
        split
        · exact h
        · exact ih (advance_reached ((orchestrator_release s).symm ▸ h))
  exact hreleases _ (advance_reached (direct_reached h hover (.control .abort)))

end Sessions

end BuildGraph.Session
