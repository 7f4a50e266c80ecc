import BuildGraph.Proofs.History.Summary
import BuildGraph.Proofs.Run.Causes
import BuildGraph.Proofs.Time.Durations

/-!
# The time that work and runs took

The entry of a run tells the milliseconds between its first and its last event, and a task that came
to no result those between the readings of the clock around its work. Both are reckoned alike, and
`reported_duration_spec` says what they tell of two readings. They may miss the last of the
milliseconds: `last_millisecond_missed`.
-/

namespace BuildGraph

open Orchestrator

variable {started ended : Timestamp} {micros : ℕ}

section Readings

/-- A reading that a clock can show: it lies in the years from one to 9999, and the clock is less
than a day ahead of universal time or behind it. -/
structure Timestamp.IsShown (t : Timestamp) : Prop where
  inRange : t.isInRange = true
  offset_lt : ∀ offset ∈ t.offset, |offset| < Timestamp.day

/-- Readings are less than `2 ^ 39` seconds apart. -/
theorem since_lt (hstarted : started.IsShown) (hended : ended.IsShown)
    (hsince : ended.since? started = some (micros : Int)) : micros < 2 ^ 39 * 1000000 := by
  have hbounds : ∀ t : Timestamp, t.IsShown →
      0 ≤ t.micros ∧ t.micros < 315537897600000000 := by
    intro t ht
    have hrange := ht.inRange
    rw [Timestamp.isInRange, Bool.and_eq_true, decide_eq_true_eq, decide_eq_true_eq] at hrange
    exact hrange
  have hoffset : ∀ t : Timestamp, t.IsShown → ∀ offset, t.offset = some offset →
      -86400000000 < offset ∧ offset < 86400000000 := by
    intro t ht offset hoffset
    exact abs_lt.1 (ht.offset_lt offset hoffset)
  have hfirst := hbounds started hstarted
  have hlast := hbounds ended hended
  rw [Timestamp.since?] at hsince
  split at hsince
  · next a b ha hb =>
      have hlastOffset := hoffset ended hended a ha
      have hfirstOffset := hoffset started hstarted b hb
      have hmicros := Option.some.inj hsince
      omega
  · have hmicros := Option.some.inj hsince
    omega
  · cases hsince

end Readings

/-- The run enters that a task failed, and the milliseconds that its work took. -/
def FailsAfter (o next : Orchestrator) (n : Node) (ms : ℤ) : Prop :=
  ∃ e more error, next.events = o.events ++ e :: more ∧ e.taskId = some n.id ∧
    e.kind = .taskFailed { durationMs := some ms, output := some "", error := some error }

section Working

variable {o : Orchestrator} {plan : RunPlan} {n : Node} {remaining : List String}
  {ending : WorkEnd}

/-- Work that came to no result is entered with the milliseconds since its start. -/
theorem finish_work_fails_after (hphase : o.phase = .working plan n started remaining)
    (hending : ending = .expired ∨ ∃ failure, ending = .failed failure)
    (hsince : o.clock.now.since? started = some (micros : Int)) :
    FailsAfter o (o.finishWork ending) n (Duration.milliseconds micros) := by
  have hfails : ∀ (o' : Orchestrator) words, o'.events = o.events →
      FailsAfter o (o'.conclude plan n remaining (o.failedResult started words)) n
        (Duration.milliseconds micros) := by
    intro o' words hevents
    let result := o.failedResult started words
    have hresult : result.closing = .taskFailed {
        durationMs := some (Duration.milliseconds micros), output := some ""
        error := some words } := by
      simp only [WorkResult.closing, result, failedResult, hsince]
      rfl
    obtain ⟨message, level, ⟨more, hmore, -⟩, -⟩ := advances_conclude plan o' n remaining result
    refine ⟨o'.entry result.closing (some n) (some message) level, more, words, ?_, rfl, hresult⟩
    rw [hmore, ← hevents]
    exact List.append_assoc _ _ _
  unfold finishWork
  simp only [hphase]
  rcases hending with rfl | ⟨failure, rfl⟩
  · exact hfails _ _ rfl
  · exact hfails _ _ rfl

end Working

/-- An entry tells the milliseconds between the times of its run. -/
theorem exists_entry_of_since {run : RunRecord} {graph : Graph} {label : Option String}
    {maxLogs : Int} {now : Timestamp} {suffix : String}
    (hstarted : run.startTime.getD now = started) (hended : run.endTime.getD now = ended)
    (hnow : now.epochFault? = none) (hsince : ended.since? started = some (micros : Int)) :
    ∃ entry, HistoryEntry.summarize run graph label maxLogs now suffix = .ok entry ∧
      entry.startTime = started ∧ entry.endTime = ended ∧
      entry.durationMs = Duration.milliseconds micros := by
  subst hstarted hended
  rw [HistoryEntry.summarize, hnow]
  simp only [hsince]
  exact ⟨_, rfl, rfl, rfl, rfl⟩

/-- Between two readings of which the second is not before the first, an entry and a task that came
to no result report the same milliseconds. These are the whole milliseconds between the readings,
but for what `Duration.Tells` leaves open, and never fewer than between readings that are closer. -/
theorem reported_duration_spec (hstarted : started.IsShown) (hended : ended.IsShown)
    (hsince : ended.since? started = some (micros : Int)) :
    Duration.Tells micros (Duration.milliseconds micros) ∧
    (∀ closer : ℕ, closer ≤ micros →
      Duration.milliseconds closer ≤ Duration.milliseconds micros) ∧
    (∀ (run : RunRecord) graph label maxLogs now suffix, run.startTime.getD now = started →
      run.endTime.getD now = ended → now.epochFault? = none →
      ∃ entry, HistoryEntry.summarize run graph label maxLogs now suffix = .ok entry ∧
        entry.startTime = started ∧ entry.endTime = ended ∧
        entry.durationMs = Duration.milliseconds micros) ∧
    (∀ (o : Orchestrator) words, o.clock.now = ended →
      (o.failedResult started words).durationMs = Duration.milliseconds micros) ∧
    ∀ (o : Orchestrator) plan n remaining ending, o.phase = .working plan n started remaining →
      o.clock.now = ended → (ending = .expired ∨ ∃ failure, ending = .failed failure) →
      FailsAfter o (o.finishWork ending) n (Duration.milliseconds micros) := by
  have hless := since_lt hstarted hended hsince
  refine ⟨Duration.tells_milliseconds hless, fun closer hle => Duration.milliseconds_mono hle hless,
    ?_, ?_, ?_⟩
  · intro run graph label maxLogs now suffix hfirst hlast hnow
    exact exists_entry_of_since hfirst hlast hnow hsince
  · rintro o words rfl
    rw [failedResult, hsince, Option.getD_some]
  · rintro o plan n remaining ending hphase rfl hending
    exact finish_work_fails_after hphase hending hsince

/-- A bit more than an hour between two clocks with a distance of two hours, of which the last
millisecond is missed by an entry and by work whose time was up. -/
theorem reported_duration_spec_hour :
    let started : Timestamp := ⟨63839671200000000, some 7200000000⟩
    let ended : Timestamp := ⟨63839668100400000, some 0⟩
    let n : Node := { id := "a", name := "first" }
    let plan : RunPlan := { graph := { nodes := [n] } }
    let o : Orchestrator := { clock := .stepping ended 0, phase := .working plan n started [] }
    started.IsShown ∧ ended.IsShown ∧ ended.since? started = some (4100400000 : ℕ) ∧
      Duration.FallsShort 4100400 ∧ Duration.milliseconds (4100400000 : ℕ) = 4100399 ∧
      (∃ entry, HistoryEntry.summarize { startTime := some started, endTime := some ended } {} none
        100 started "0" = .ok entry ∧ entry.durationMs = 4100399) ∧
      o.phase = .working plan n started [] ∧ o.clock.now = ended ∧
      FailsAfter o (o.finishWork .expired) n 4100399 := by
  intro started ended n plan o
  have hstarted : started.IsShown := ⟨by decide, by simp [started, Timestamp.day, Timestamp.second]⟩
  have hended : ended.IsShown := ⟨by decide, by simp [ended, Timestamp.day, Timestamp.second]⟩
  have hsince : ended.since? started = some (4100400000 : ℕ) := by decide
  have hshort : Duration.FallsShort 4100400 := by decide +kernel
  obtain ⟨htells, -, hentry, -, hfails⟩ := reported_duration_spec hstarted hended hsince
  have hvalue : Duration.milliseconds (4100400000 : ℕ) = 4100399 := by
    rw [htells.of_short (by norm_num), if_pos ⟨by norm_num, hshort⟩]
    norm_num
  rw [hvalue] at hentry hfails
  obtain ⟨entry, hok, -, -, hms⟩ := hentry { startTime := some started, endTime := some ended } {}
    none 100 started "0" rfl rfl rfl
  exact ⟨hstarted, hended, hsince, hshort, hvalue, ⟨entry, hok, hms⟩, rfl, rfl,
    hfails o plan n [] .expired rfl rfl (.inl rfl)⟩

/-- A run and the work on its task take 1001 milliseconds, and the entry of the run and the log have
one less. -/
theorem last_millisecond_missed :
    let started : Timestamp := ⟨63839664000000000, some 0⟩
    let ended := started.later 1001000
    let plan : RunPlan := { graph := { nodes := [{ id := "a", name := "a" }] } }
    let idle : Orchestrator := { clock := .stepping started 1001000 }
    ended.since? started = some (1001 * 1000) ∧
      (∃ entry, HistoryEntry.summarize { startTime := some started, endTime := some ended } {} none
        100 started "0000001" = .ok entry ∧ entry.durationMs = 1000) ∧
      ∃ begun n first, idle.start plan = .ok begun ∧ begun.phase = .working plan n first [] ∧
        begun.clock.now.since? first = some (1001 * 1000) ∧
        ∃ e ∈ (begun.finishWork (.failed ⟨"RuntimeError", "down"⟩)).events,
          e.taskId = some n.id ∧ e.kind = .taskFailed {
            durationMs := some 1000, output := some "", error := some "RuntimeError: down" } := by
  refine ⟨by decide, ⟨_, rfl, by decide +kernel⟩, _, _, _, rfl, rfl, by decide +kernel, ?_⟩
  decide +kernel

end BuildGraph
