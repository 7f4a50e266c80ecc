import BuildGraph.Proofs.Run.Reached

/-!
# Pauses

`not_started_during_pause` says that no task is begun during a pause, as long as no pause comes
between the moment in which a waiting run is woken and the moment in which it goes on. Without that
proviso a task may be begun: `started_during_pause`.
-/

namespace BuildGraph

open Orchestrator

variable {r : Rules} {plan : RunPlan} {context : GuardContext} {log : List Event} {stage : Stage}

/-- A pause lasts until an event that ends it. -/
theorem replay_is_paused {front back : List Event} {e : Event} (he : e.kind = .runPaused)
    (hback : ∀ x ∈ back, x.kind.pausing? ≠ some false) :
    (replay (front ++ e :: back)).isPaused = true := by
  induction back using List.reverseRecOn with
  | nil => rw [replay_concat, RunState.is_paused_apply, he, EventKind.pausing?, Option.getD_some]
  | append_singleton back last ih =>
      have hlast := hback last (by simp)
      rw [← List.cons_append, ← List.append_assoc, replay_concat, RunState.is_paused_apply,
        ih fun x hx => hback x (List.mem_append_left _ hx)]
      cases hpausing : last.kind.pausing? with
      | none => rfl
      | some paused =>
          cases paused
          · exact absurd hpausing hlast
          · rfl

/-- Only calls to go on and to abort end a pause while a run is under way. -/
theorem RunLog.ends_pause (h : RunLog r plan context log stage)
    (hopen : ∀ last, stage ≠ .ended last) {front back : List Event} {e x : Event}
    (hlog : log = front ++ e :: back) (hx : x ∈ back) (hpausing : x.kind.pausing? = some false) :
    x.kind = .runResumed ∨ x.kind = .runAborted := by
  have hopening := h.not_opening_of_mem_tail hlog hx
  have hfinished := h.not_finished hopen (by simp [hlog, hx] : x ∈ log)
  cases hkind : x.kind <;> simp_all [EventKind.pausing?, EventKind.isOpening]

/-- No task is begun during a pause: between an obeyed pause and the begin of a task lies an obeyed
call to go on or to abort. Rules let no pause come while a run that was woken at the gate has not
gone on. -/
theorem not_started_during_pause {o : Orchestrator} (h : Reached ⟨true, false⟩ plan o)
    {front back : List Event} {e : Event} (hlog : o.events = front ++ e :: back)
    (hkind : e.kind = .taskStarted) :
    (replay front).isPaused = false ∧
      ∀ before pause between, front = before ++ pause :: between → pause.kind = .runPaused →
        ∃ x ∈ between, x.kind = .runResumed ∨ x.kind = .runAborted := by
  obtain ⟨stage, hfollows, -⟩ := h.tracks
  obtain ⟨before, after, hfront, hstep⟩ :=
    hfollows.log.at_event hlog (by simp [hkind, EventKind.isOpening])
  obtain ⟨visited, id, remaining, rfl, -, -, hpaused⟩ := hstep.of_started hkind
  have hpaused : (replay front).isPaused = false := by simpa using hpaused
  refine ⟨hpaused, fun before pause between hsplit hpause => ?_⟩
  by_contra! hnone
  have hback : ∀ x ∈ between, x.kind.pausing? ≠ some false := fun x hx hpausing => by
    rcases hfront.ends_pause (by simp) hsplit hx hpausing with hx' | hx'
    · exact (hnone x hx).1 hx'
    · exact (hnone x hx).2 hx'
  rw [hsplit, replay_is_paused hpause hback] at hpaused
  cases hpaused

/-- A pause that is over when the second task begins. -/
theorem not_started_during_pause_resumed :
    let plan : RunPlan := { graph := {
      nodes := [{ id := "a", name := "first" }, { id := "b", name := "second" }]
      edges := [{ source := "a", target := "b" }] } }
    let idle : Orchestrator := { clock := .stepping ⟨0, none⟩ 1 }
    let moves := [.control .pause, .finish (.returned {}), .control .resume, .wake]
    ∃ begun, idle.start plan = .ok begun ∧
      let o := moves.foldl (Move.apply plan) begun
      ∃ front e, o.events = front ++ [e] ∧ e.kind = .taskStarted ∧ e.taskId = some "b" ∧
        (replay front).isPaused = false ∧
        ∀ before pause between, front = before ++ pause :: between → pause.kind = .runPaused →
          ∃ x ∈ between, x.kind = .runResumed ∨ x.kind = .runAborted := by
  intro plan idle moves
  obtain ⟨begun, hbegun⟩ : ∃ begun, idle.start plan = .ok begun := ⟨_, rfl⟩
  refine ⟨begun, hbegun, ?_⟩
  intro o
  have hreached : Reached ⟨true, false⟩ plan o :=
    (Reached.started hbegun).play ⟨.inr ?_, trivial, trivial, trivial, trivial⟩
  · obtain ⟨hne, hkind, hid⟩ : ∃ hne : o.events ≠ [],
        (o.events.getLast hne).kind = .taskStarted ∧ (o.events.getLast hne).taskId = some "b" := by
      obtain rfl := Except.ok.inj hbegun
      decide +kernel
    have hsplit : o.events = o.events.dropLast ++ [o.events.getLast hne] :=
      (List.dropLast_append_getLast hne).symm
    exact ⟨_, _, hsplit, hkind, hid, not_started_during_pause hreached hsplit hkind⟩
  · obtain rfl := Except.ok.inj hbegun
    decide +kernel

/-- A run that was woken begins its next task although a second pause came before it went on. -/
theorem started_during_pause :
    let plan : RunPlan := { graph := {
      nodes := [{ id := "a", name := "first" }, { id := "b", name := "second" }]
      edges := [{ source := "a", target := "b" }] } }
    let idle : Orchestrator := { clock := .stepping ⟨0, none⟩ 1 }
    let moves := [.control .pause, .finish (.returned {}), .control .resume, .control .pause, .wake]
    ∃ begun, idle.start plan = .ok begun ∧
      let o := moves.foldl (Move.apply plan) begun
      Reached ⟨false, true⟩ plan o ∧ o.events.map (fun e => e.kind.name) = [
        "runStarted", "taskStarted", "runPaused", "taskCompleted", "runResumed", "runPaused",
        "taskStarted"] ∧ (replay o.events.dropLast).isPaused = true := by
  intro plan idle moves
  obtain ⟨begun, hbegun⟩ : ∃ begun, idle.start plan = .ok begun := ⟨_, rfl⟩
  refine ⟨begun, hbegun, (Reached.started hbegun).play
    ⟨.inl rfl, trivial, trivial, .inl rfl, trivial, trivial⟩, ?_⟩
  obtain rfl := Except.ok.inj hbegun
  decide +kernel

end BuildGraph
