import BuildGraph.Proofs.Graph.Accepted
import BuildGraph.Proofs.Number.Decimal
import BuildGraph.Proofs.Run.Reached

/-!
# Why work failed

The end of the work on a task is entered in the log once: `Reports` says as what. Everything else
that a run does enters no end of work, apart from tasks whose time no clock can measure, so each end
in the log comes from one move (`Explained.caused`), and each move that ends work is in the log
(`Explained.reported`). A failure of the kind that counts as an expired time is entered as one, also
for a task that has no time limit: `failure_taken_for_timeout`.
-/

namespace BuildGraph

open Orchestrator

/-- What is entered for a result of work. -/
def WorkResult.closing (result : WorkResult) : EventKind :=
  if result.success then
    .taskCompleted { durationMs := some result.durationMs, output := some result.output }
  else
    .taskFailed {
      durationMs := some result.durationMs, output := some result.output, error := result.error }

/-- What is entered for an end of the work on a task. A failure of the kind that counts as an
expired time is taken for one. -/
inductive Reports (n : Node) : WorkEnd → EventKind → Prop
  | returned (result : WorkResult) : Reports n (.returned result) result.closing
  | raised {failure : WorkFailure} (hkind : failure.kind ≠ timeoutKind) (elapsed : Int) :
      Reports n (.failed failure) (.taskFailed {
        durationMs := some elapsed, output := some ""
        error := some (failure.kind ++ ": " ++ failure.words) })
  | taken {failure : WorkFailure} (hkind : failure.kind = timeoutKind) (elapsed : Int) :
      Reports n (.failed failure) (.taskFailed {
        durationMs := some elapsed, output := some "", error := some (timeoutWords n) })
  | expired (elapsed : Int) :
      Reports n .expired (.taskFailed {
        durationMs := some elapsed, output := some "", error := some (timeoutWords n) })

/-- What is entered for a task whose work did not begin, since no clock can measure its time. -/
def FailsUnbegun (n : Node) (kind : EventKind) : Prop :=
  ∃ words elapsed, limitFailure? n = some words ∧
    kind = .taskFailed { durationMs := some elapsed, output := some "", error := some words }

/-- The work on a task ended while moves led a run on. -/
def EndedWork (plan : RunPlan) (begun : Orchestrator) (moves : List Move) (n : Node)
    (ending : WorkEnd) : Prop :=
  ∃ front back started remaining, moves = front ++ .finish ending :: back ∧
    (front.foldl (Move.apply plan) begun).phase = .working plan n started remaining

/-- The words for a time of some minutes that was up. -/
def expiredWords (minutes : Int) : String :=
  "Task timed out after " ++ toString minutes ++ " minute(s)"

variable {plan : RunPlan} {n : Node} {e : Event} {ending : WorkEnd} {moves : List Move}

section Words

/-- The decimal text of an integer holds a sign and digits at most. -/
theorem sign_or_digit_of_mem_toString {k : Int} {c : Char} (hc : c ∈ (toString k).toList) :
    c = '-' ∨ c.isDigit = true := by
  rw [Int.toString_eq_repr] at hc
  cases k with
  | ofNat n => exact .inr (Number.isDigit_of_mem_toString hc)
  | negSucc n =>
      rw [Int.repr, String.toList_append, List.mem_append] at hc
      rcases hc with hc | hc
      · exact .inl (by simpa using hc)
      · exact .inr (Number.isDigit_of_mem_toString hc)

theorem colon_not_mem_expiredWords (minutes : Int) : ':' ∉ (expiredWords minutes).toList := by
  intro hmem
  unfold expiredWords at hmem
  simp only [String.toList_append, List.mem_append] at hmem
  rcases hmem with (hmem | hmem) | hmem
  · exact absurd hmem (by decide +kernel)
  · exact absurd (sign_or_digit_of_mem_toString hmem) (by decide)
  · exact absurd hmem (by decide +kernel)

/-- A failure with a kind is not said in the words for an expired time. -/
theorem kind_words_ne_expiredWords (kind words : String) (minutes : Int) :
    kind ++ ": " ++ words ≠ expiredWords minutes := by
  intro heq
  refine colon_not_mem_expiredWords minutes ?_
  rw [← heq]
  simp

/-- The words for a time that was up tell how many minutes a task has. -/
theorem timeoutWords_eq_iff {minutes : Int} :
    timeoutWords n = expiredWords minutes ↔ n.timeoutMinutes = some minutes := by
  unfold timeoutWords expiredWords
  rw [String.append_left_inj, String.append_right_inj]
  cases n.timeoutMinutes with
  | none =>
      refine iff_of_false (fun heq => ?_) (by simp)
      have hletter : 'N' ∈ (toString minutes).toList := by simp [← heq]
      exact absurd (sign_or_digit_of_mem_toString hletter) (by decide)
  | some own =>
      rw [Option.map_some, Option.getD_some, Int.toString_eq_repr, Int.toString_eq_repr,
        Int.repr_inj, Option.some.injEq]

theorem limitFailure_ne_expiredWords {words : String} (h : limitFailure? n = some words)
    (minutes : Int) : words ≠ expiredWords minutes := by
  rw [limitFailure?] at h
  split at h
  · cases h
  · split at h
    · obtain rfl := Option.some.inj h
      exact kind_words_ne_expiredWords "OverflowError" "int too large to convert to float" minutes
    · cases h

end Words

namespace Orchestrator

/-- An event enters no end of work, unless the work did not begin. -/
def IsQuiet (plan : RunPlan) (e : Event) : Prop :=
  e.kind.closing? ≠ none →
    ∃ n, plan.graph.node? n.id = some n ∧ e.taskId = some n.id ∧ FailsUnbegun n e.kind

/-- If the run broke off, a guard that cannot be evaluated broke it off. -/
def Settles (o : Orchestrator) : Prop :=
  ∀ cause, o.phase = .idle (some cause) → ∃ fault, cause = .guard fault

/-- A run goes on by itself: it enters no end of work that it did not wait for. -/
structure Advances (plan : RunPlan) (o next : Orchestrator) : Prop where
  events : ∃ more, next.events = o.events ++ more ∧ ∀ e ∈ more, IsQuiet plan e
  settled : next.Settles

variable {o next : Orchestrator} {kind : EventKind} {node : Option Node} {message : Option String}
  {level : LogLevel} {remaining : List String} {id : String}

section Advancing

theorem Advances.refl (h : o.Settles) : Advances plan o o := ⟨⟨[], by simp⟩, h⟩

/-- A run that goes on after a quiet event goes on. -/
theorem Advances.after_record (hquiet : IsQuiet plan (o.entry kind node message level))
    (h : Advances plan (o.record kind node message level) next) : Advances plan o next := by
  obtain ⟨more, hmore, hall⟩ := h.events
  refine ⟨⟨o.entry kind node message level :: more, ?_, List.forall_mem_cons.2 ⟨hquiet, hall⟩⟩,
    h.settled⟩
  rw [hmore]
  exact List.append_assoc _ _ _

/-- An event that says of no end of work is quiet. -/
theorem is_quiet_of_closing_eq_none (h : e.kind.closing? = none) : IsQuiet plan e :=
  fun hnot => absurd h hnot

theorem advances_finish (o : Orchestrator) (cancelled : Bool) :
    Advances plan o (o.finish cancelled) := by
  refine Advances.after_record (is_quiet_of_closing_eq_none rfl) ⟨⟨[], by simp; rfl⟩, ?_⟩
  intro cause hcause
  cases hcause

/-- A run that skips the remaining tasks enters no end of work. -/
theorem advances_skip_all (o : Orchestrator) (n : Node) (remaining : List String) :
    Advances plan o ((remaining.foldl (skipAfter n plan) o).finish false) := by
  induction remaining generalizing o with
  | nil => exact advances_finish o false
  | cons id remaining ih =>
      exact (ih (skipAfter n plan o id)).after_record (is_quiet_of_closing_eq_none rfl)

/-- The failure of a task is the last end of work that a run enters. -/
theorem advances_fail (plan : RunPlan) (o : Orchestrator) (n : Node) (result : WorkResult)
    (remaining : List String) :
    ∃ message, Advances plan
      (o.record (.taskFailed {
        durationMs := some result.durationMs, output := some result.output, error := result.error })
        (some n) (some message) .error) (o.fail plan n result remaining) :=
  ⟨_, advances_skip_all _ n remaining⟩

/-- A run that begins the work on a task waits for it, or the task fails without it. -/
theorem advances_begin (hnode : plan.graph.node? n.id = some n) (o : Orchestrator)
    (remaining : List String) : Advances plan o (o.begin plan n remaining) := by
  let entered := o.record .taskStarted (some n) (some ("Starting task: " ++ n.name)) .info
  suffices h : Advances plan entered (o.begin plan n remaining) from
    h.after_record (is_quiet_of_closing_eq_none rfl)
  rw [Orchestrator.begin]
  split
  · refine ⟨⟨[], by simp [entered]⟩, fun cause hcause => ?_⟩
    cases hcause
  · next words hwords =>
      let result :=
        { entered with clock := entered.clock.tick }.failedResult entered.clock.now words
      obtain ⟨message, hfail⟩ := advances_fail plan { entered with
        clock := entered.clock.tick.tick, asked := entered.asked ++ [plan.request n] } n result
        remaining
      have h := hfail.after_record fun _ => ⟨n, hnode, rfl, words, _, hwords, rfl⟩
      exact ⟨h.events, h.settled⟩

theorem advances_enter {go : Orchestrator → Orchestrator} (hgo : ∀ o, Advances plan o (go o))
    (id : String) (remaining : List String) (o : Orchestrator) :
    Advances plan o (enter plan id remaining go o) := by
  rw [enter]
  split
  · exact advances_finish o true
  · split
    · exact hgo o
    · next n hnode =>
        split
        · refine ⟨⟨[], by simp [leave]⟩, fun cause hcause => ?_⟩
          cases hcause
          exact ⟨_, rfl⟩
        · exact (hgo _).after_record (is_quiet_of_closing_eq_none rfl)
        · exact advances_begin (by rw [Graph.id_of_node? hnode, hnode]) o remaining

theorem advances_visit (plan : RunPlan) (remaining : List String) (o : Orchestrator) :
    Advances plan o (visit plan remaining o) := by
  induction remaining generalizing o with
  | nil => exact advances_finish o false
  | cons id remaining ih =>
      rw [visit]
      split
      · exact advances_enter ih id remaining o
      · refine ⟨⟨[], by simp⟩, fun cause hcause => ?_⟩
        cases hcause

/-- A result of work is entered, and the run goes on. -/
theorem advances_conclude (plan : RunPlan) (o : Orchestrator) (n : Node) (remaining : List String)
    (result : WorkResult) :
    ∃ message level, Advances plan (o.record result.closing (some n) (some message) level)
      (o.conclude plan n remaining result) := by
  rw [conclude, WorkResult.closing]
  split
  · exact ⟨_, _, advances_visit plan remaining _⟩
  · obtain ⟨message, hfail⟩ := advances_fail plan o n result remaining
    exact ⟨message, .error, hfail⟩

end Advancing

section Moves

/-- The end of the work that a run waits for is entered, and no other end of work. -/
theorem finish_work_reports {started : Timestamp}
    (hphase : o.phase = .working plan n started remaining) (hending : ending ≠ .calledOff) :
    ∃ e more, e.taskId = some n.id ∧ Reports n ending e.kind ∧
      (o.finishWork ending).events = o.events ++ e :: more ∧ (∀ x ∈ more, IsQuiet plan x) ∧
      (o.finishWork ending).Settles := by
  -- the clock may go on before the result is entered, but the log stays
  have hresult : ∀ (o' : Orchestrator) result, o'.events = o.events →
      Reports n ending result.closing →
      ∃ e more, e.taskId = some n.id ∧ Reports n ending e.kind ∧
        (o'.conclude plan n remaining result).events = o.events ++ e :: more ∧
        (∀ x ∈ more, IsQuiet plan x) ∧ (o'.conclude plan n remaining result).Settles := by
    intro o' result hevents hreports
    obtain ⟨message, level, ⟨more, hmore, hquiet⟩, hsettled⟩ :=
      advances_conclude plan o' n remaining result
    refine ⟨o'.entry result.closing (some n) (some message) level, more, rfl, hreports, ?_, hquiet,
      hsettled⟩
    rw [hmore, ← hevents]
    exact List.append_assoc _ _ _
  unfold finishWork
  simp only [hphase]
  cases ending with
  | returned result => exact hresult _ result rfl (.returned result)
  | failed failure =>
      refine hresult _ _ rfl ?_
      by_cases hkind : failure.kind = timeoutKind
      · rw [failureWords, if_pos hkind]
        exact .taken hkind _
      · rw [failureWords, if_neg hkind]
        exact .raised hkind _
  | expired =>
      refine hresult _ _ rfl ?_
      exact .expired _
  | calledOff => exact absurd rfl hending

/-- A move ends the work on a task. -/
def EndsWork (plan : RunPlan) (o : Orchestrator) (m : Move) (n : Node) (ending : WorkEnd) : Prop :=
  m = .finish ending ∧ ∃ started remaining, o.phase = .working plan n started remaining

/-- Opening the gate changes neither the log nor whether the run is over. -/
theorem settles_open_gate (h : o.Settles) : o.openGate.Settles := by
  intro cause hcause
  rw [openGate] at hcause
  split at hcause
  · cases hcause
  · exact h cause hcause

/-- A run enters no end of work that it did not wait for, and does not break off unless a guard
breaks it off. -/
structure GoesQuietly (plan : RunPlan) (o next : Orchestrator) : Prop where
  events : ∃ more, next.events = o.events ++ more ∧ ∀ e ∈ more, IsQuiet plan e
  settles : o.Settles → next.Settles

theorem Advances.goes_quietly (h : Advances plan o next) : GoesQuietly plan o next :=
  ⟨h.events, fun _ => h.settled⟩

theorem goes_quietly_refl (o : Orchestrator) : GoesQuietly plan o o := ⟨⟨[], by simp⟩, id⟩

/-- A run that enters an event that says of no end of work goes on quietly. -/
theorem goes_quietly_record {before : Orchestrator} (hevents : before.events = o.events)
    (hsettles : o.Settles → before.Settles) (hkind : kind.closing? = none) :
    GoesQuietly plan o (before.record kind node message level) := by
  refine ⟨⟨[before.entry kind node message level], ?_, ?_⟩, hsettles⟩
  · rw [← hevents]
    rfl
  · exact List.forall_mem_singleton.2 (is_quiet_of_closing_eq_none hkind)

theorem GoesQuietly.open_gate (h : GoesQuietly plan o next) : GoesQuietly plan o next.openGate :=
  ⟨h.events, fun hsettles => settles_open_gate (h.settles hsettles)⟩

/-- A move that ends no work enters no end of work. -/
theorem quiet_move {r : Rules} (h : o.Tracks r plan) {m : Move}
    (hnot : ∀ n ending, ¬ EndsWork plan o m n ending) : GoesQuietly plan o (m.apply plan o) := by
  unfold Move.apply
  split
  · next hrunning =>
      cases m with
      | report line =>
          dsimp only
          rw [report]
          split
          · exact goes_quietly_record rfl id rfl
          · exact goes_quietly_refl o
      | stray n line => exact goes_quietly_record rfl id rfl
      | finish ending =>
          dsimp only
          rw [finishWork]
          split
          · next plan' n started remaining hphase =>
              obtain ⟨rfl, -⟩ := h.working hphase
              exact absurd ⟨rfl, started, remaining, hphase⟩ (hnot n ending)
          · exact goes_quietly_refl o
      | wake =>
          dsimp only
          rw [wake]
          split
          · next woken id rest hphase =>
              obtain ⟨rfl, -⟩ := h.at_gate hphase
              split
              · exact (advances_enter (advances_visit _ rest) id rest o).goes_quietly
              · exact goes_quietly_refl o
          · exact goes_quietly_refl o
      | control c =>
          dsimp only
          rcases obey_cases hrunning plan c with
            heq | ⟨-, -, -, heq⟩ | ⟨-, -, heq⟩ | ⟨-, -, heq⟩ <;> rw [heq]
          · exact goes_quietly_refl o
          · exact goes_quietly_record rfl id rfl
          · exact GoesQuietly.open_gate (goes_quietly_record rfl id rfl)
          · exact GoesQuietly.open_gate (goes_quietly_record rfl id rfl)
  · exact goes_quietly_refl o

end Moves

end Orchestrator

section Shown

variable {r : Rules} {context : GuardContext} {log : List Event} {stage : Stage} {id : String}
  {status : TaskStatus} {outcome : TaskOutcome}

/-- A task has two marks at most. -/
theorem Stage.Marked.length_le (h : stage.Marked plan context log)
    (hid : id ∈ stage.entered ++ stage.ahead) : (marks id log).length ≤ 2 := by
  have hpassed : PassMarks plan context log id → (marks id log).length ≤ 2 := by
    rintro (hmarks | ⟨_, _, -, -, hmarks⟩) <;> simp [hmarks]
  rcases List.mem_append.1 hid with hid | hid
  · induction stage with
    | between visited remaining => exact hpassed (h.1 id hid)
    | working visited n remaining =>
        rcases List.mem_append.1 hid with hid | hid
        · exact hpassed (h.1 id hid)
        · obtain rfl := List.mem_singleton.1 hid
          simp [h.2.2.1]
    | failing visited n skipped remaining =>
        rcases List.mem_append.1 hid with hid | hid
        · exact hpassed (h.1 id hid)
        · rcases List.mem_cons.1 hid with rfl | hid
          · simp [h.2.2.1]
          · simp [h.2.2.2.1 id hid]
    | ended last ih => exact ih h (List.mem_append_left _ hid) hid
  · simp [h.ahead id hid]

/-- The end of the work on a task is the last mark on it. -/
theorem RunLog.no_mark_behind (h : RunLog r plan context log stage) {front back : List Event}
    (hlog : log = front ++ e :: back) (hid : e.taskId = some id)
    (hclosing : e.kind.closing? = some (status, outcome)) : marks id back = [] := by
  obtain ⟨before, after, hfront, hstep⟩ := h.at_task_event hlog hid
  obtain ⟨hmark, hwork⟩ : (e.mark? id).isSome = true ∧
      ∃ visited n remaining, before = .working visited n remaining ∧ n.id = id := by
    rcases EventKind.closing?_eq_some.1 hclosing with ⟨hkind, -⟩ | ⟨hkind, -⟩ <;>
      refine ⟨by simp [Event.mark?, hid, hkind, EventKind.mark?], ?_⟩ <;>
      cases hstep with
      | completed _ hn | failed _ hn => exact ⟨_, _, _, rfl, Option.some.inj (hn.symm.trans hid)⟩
      | control _ _ hcontrol => simp [hkind, EventKind.isControl] at hcontrol
      | output houtput | stray _ _ houtput => simp [hkind, EventKind.isOutput] at houtput
      | passed _ _ _ hother | began _ _ _ _ hother | skipped hother | finished _ hother =>
          simp [hkind] at hother
  obtain ⟨visited, n, remaining, rfl, rfl⟩ := hwork
  have hstarted : marks n.id front = [.started] := hfront.marked.2.2.1
  have horder : n.id ∈ stage.entered ++ stage.ahead := by
    rw [h.order_eq, ← hfront.order_eq]
    simp [Stage.entered]
  -- the start of the work and its end are two marks, so none can follow
  obtain ⟨m, hm⟩ := Option.isSome_iff_exists.1 hmark
  have hlength := h.marked.length_le horder
  rw [hlog, marks_append, marks_cons, hstarted, hm] at hlength
  simp at hlength
  exact hlength

/-- Events that leave no mark on a task change neither its status nor its error. -/
theorem RunState.kept_of_unmarked (hlog : ∀ e ∈ log, e.kind.isOpening = false)
    (hmarks : marks id log = []) (s : RunState) :
    ((log.foldl apply s).resultOf (some id)).status = (s.resultOf (some id)).status ∧
      ((log.foldl apply s).resultOf (some id)).error = (s.resultOf (some id)).error := by
  rw [result_of_foldl_enter hlog]
  refine List.foldlRecOn (motive := fun result : TaskResult =>
    result.status = (s.resultOf (some id)).status ∧
      result.error = (s.resultOf (some id)).error) _ _ ⟨rfl, rfl⟩ fun result hkept e he => ?_
  obtain ⟨hmem, hid⟩ := List.mem_filter.1 he
  have hkind : e.kind.mark? = none := by
    simpa [Event.mark?, of_decide_eq_true hid] using List.filterMap_eq_nil_iff.1 hmarks e hmem
  rw [TaskResult.enter]
  cases hk : e.kind <;> simp_all [EventKind.mark?]

/-- The state that a log comes to says of a task what the end of the work on it says. -/
theorem RunLog.shows (h : RunLog r plan context log stage) (he : e ∈ log)
    (hid : e.taskId = some id) (hclosing : e.kind.closing? = some (status, outcome)) :
    ((replay log).resultOf (some id)).status = status ∧
      ((replay log).resultOf (some id)).error = outcome.error := by
  obtain ⟨front, back, rfl⟩ := List.append_of_mem he
  have hback := h.no_mark_behind rfl hid hclosing
  have hopening : ∀ x ∈ back, x.kind.isOpening = false := fun x hx =>
    h.not_opening_of_mem_tail rfl hx
  have hself := h.not_opening_of_task he hid
  rw [replay, List.foldl_append, List.foldl_cons]
  obtain ⟨hstatus, herror⟩ :=
    RunState.kept_of_unmarked hopening hback ((front.foldl RunState.apply {}).apply e)
  rw [hstatus, herror, RunState.result_of_apply_eq _ hself, if_pos hid, TaskResult.enter]
  rcases EventKind.closing?_eq_some.1 hclosing with ⟨hkind, rfl⟩ | ⟨hkind, rfl⟩ <;>
    simp [hkind, TaskResult.close]

end Shown

section Explained

variable {idle begun : Orchestrator}

/-- An end of work among some moves and one more is among those or is that one. -/
theorem ended_work_concat {m : Move} :
    EndedWork plan begun (moves ++ [m]) n ending ↔ EndedWork plan begun moves n ending ∨
      EndsWork plan (moves.foldl (Move.apply plan) begun) m n ending := by
  constructor
  · rintro ⟨front, back, started, remaining, hmoves, hphase⟩
    rcases List.eq_nil_or_concat back with rfl | ⟨back, last, rfl⟩
    · obtain ⟨rfl, rfl⟩ : moves = front ∧ m = .finish ending := by simpa using hmoves
      exact .inr ⟨rfl, started, remaining, hphase⟩
    · rw [List.concat_eq_append, ← List.cons_append, ← List.append_assoc] at hmoves
      exact .inl ⟨front, back, started, remaining, List.append_inj_left' hmoves rfl, hphase⟩
  · rintro (⟨front, back, started, remaining, rfl, hphase⟩ | ⟨rfl, started, remaining, hphase⟩)
    · exact ⟨front, back ++ [m], started, remaining, by simp, hphase⟩
    · exact ⟨moves, [], started, remaining, rfl, hphase⟩

/-- A run starts without an end of work, and does not break off unless a guard breaks it off. -/
theorem start_quiet (h : idle.start plan = .ok begun) :
    (∀ e ∈ begun.events, IsQuiet plan e) ∧ begun.Settles := by
  rw [start] at h
  split at h
  · cases h
  · obtain rfl := Except.ok.inj h
    obtain ⟨⟨more, hmore, hquiet⟩, hsettled⟩ := advances_visit plan plan.order _
    refine ⟨fun e he => ?_, hsettled⟩
    rw [hmore] at he
    rcases List.mem_append.1 he with he | he
    · obtain rfl := List.mem_singleton.1 he
      exact is_quiet_of_closing_eq_none rfl
    · exact hquiet e he

/-- An event that enters an end of work has its cause among the ends of work. -/
def HasCause (plan : RunPlan) (begun : Orchestrator) (moves : List Move) (e : Event) : Prop :=
  e.kind.closing? ≠ none → ∃ n, plan.graph.node? n.id = some n ∧ e.taskId = some n.id ∧
    ((∃ ending, EndedWork plan begun moves n ending ∧ Reports n ending e.kind) ∨
      FailsUnbegun n e.kind)

theorem Orchestrator.IsQuiet.has_cause (h : IsQuiet plan e) : HasCause plan begun moves e := by
  intro hclosing
  obtain ⟨n, hnode, hid, hfails⟩ := h hclosing
  exact ⟨n, hnode, hid, .inr hfails⟩

theorem HasCause.concat (h : HasCause plan begun moves e) (m : Move) :
    HasCause plan begun (moves ++ [m]) e := by
  intro hclosing
  obtain ⟨n, hnode, hid, hcause⟩ := h hclosing
  refine ⟨n, hnode, hid, hcause.imp_left ?_⟩
  rintro ⟨ending, hended, hreports⟩
  exact ⟨ending, ended_work_concat.2 (.inl hended), hreports⟩

/-- The log of a run and the ends of its work explain each other. -/
structure Explained (plan : RunPlan) (begun : Orchestrator) (moves : List Move) (o : Orchestrator) :
    Prop where
  /-- Each end of work is entered for what it is, unless the work is called off. -/
  reported : ∀ n ending, EndedWork plan begun moves n ending → ending ≠ .calledOff →
    ∃ e ∈ o.events, e.taskId = some n.id ∧ Reports n ending e.kind
  caused : ∀ e ∈ o.events, HasCause plan begun moves e
  /-- Unless work is called off, only a guard that cannot be evaluated breaks a run off. -/
  settled : o.Settles ∨ ∃ n, EndedWork plan begun moves n .calledOff

variable {o : Orchestrator} {m : Move}

/-- A run that starts is explained. -/
theorem explained_start (h : idle.start plan = .ok begun) : Explained plan begun [] begun := by
  obtain ⟨hquiet, hsettled⟩ := start_quiet h
  refine ⟨fun n ending hended => ?_, fun e he => (hquiet e he).has_cause, .inl hsettled⟩
  obtain ⟨front, back, _, _, hmoves, -⟩ := hended
  simp at hmoves

/-- A move that ends no work leaves a run explained. -/
theorem Explained.quiet (h : Explained plan begun moves o)
    (ho : moves.foldl (Move.apply plan) begun = o) (hgoes : GoesQuietly plan o (m.apply plan o))
    (hnot : ∀ n ending, ¬ EndsWork plan o m n ending) :
    Explained plan begun (moves ++ [m]) (m.apply plan o) := by
  obtain ⟨⟨more, hmore, hquiet⟩, hsettles⟩ := hgoes
  refine ⟨fun n ending hended hending => ?_, fun e he => ?_, ?_⟩
  · rw [ended_work_concat, ho] at hended
    obtain ⟨e, he, hreports⟩ := h.reported n ending (hended.resolve_right (hnot n ending)) hending
    exact ⟨e, hmore ▸ List.mem_append_left _ he, hreports⟩
  · rw [hmore] at he
    rcases List.mem_append.1 he with he | he
    · exact (h.caused e he).concat m
    · exact (hquiet e he).has_cause
  · refine h.settled.imp hsettles ?_
    rintro ⟨n, hended⟩
    exact ⟨n, ended_work_concat.2 (.inl hended)⟩

/-- The end of the work that a run waits for leaves the run explained. -/
theorem Explained.finish {started : Timestamp} {remaining : List String}
    (h : Explained plan begun moves o) (ho : moves.foldl (Move.apply plan) begun = o)
    (hphase : o.phase = .working plan n started remaining)
    (hnode : plan.graph.node? n.id = some n) :
    Explained plan begun (moves ++ [.finish ending]) (o.finishWork ending) := by
  have hends : EndedWork plan begun (moves ++ [.finish ending]) n ending :=
    ended_work_concat.2 (.inr ⟨rfl, started, remaining, ho ▸ hphase⟩)
  by_cases hending : ending = .calledOff
  · subst hending
    have hevents : (o.finishWork .calledOff).events = o.events := by
      unfold finishWork
      simp only [hphase]
      rfl
    refine ⟨fun n' ending' hended hending' => ?_, fun e he => ?_, .inr ⟨n, hends⟩⟩
    · rcases ended_work_concat.1 hended with hended | ⟨hmove, -⟩
      · exact hevents ▸ h.reported n' ending' hended hending'
      · exact absurd (Move.finish.inj hmove).symm hending'
    · exact (h.caused e (hevents ▸ he)).concat _
  · obtain ⟨e, more, hid, hreports, hevents, hquiet, hsettled⟩ := finish_work_reports hphase hending
    refine ⟨fun n' ending' hended hending' => ?_, fun x hx => ?_, .inl hsettled⟩
    · rw [ended_work_concat, ho] at hended
      rcases hended with hended | ⟨hmove, started', remaining', hphase'⟩
      · obtain ⟨x, hx, hreports'⟩ := h.reported n' ending' hended hending'
        exact ⟨x, hevents ▸ List.mem_append_left _ hx, hreports'⟩
      · obtain rfl := Move.finish.inj hmove
        obtain ⟨-, rfl, -⟩ := Phase.working.inj (hphase.symm.trans hphase')
        exact ⟨e, by simp [hevents], hid, hreports⟩
    · rw [hevents] at hx
      rcases List.mem_append.1 hx with hx | hx
      · exact (h.caused x hx).concat _
      · rcases List.mem_cons.1 hx with rfl | hx
        · exact fun _ => ⟨n, hnode, hid, .inl ⟨ending, hends, hreports⟩⟩
        · exact (hquiet x hx).has_cause

/-- Runs are explained, whatever moves lead them on. -/
theorem explained_play (h : idle.start plan = .ok begun) (moves : List Move) :
    Explained plan begun moves (moves.foldl (Move.apply plan) begun) := by
  induction moves using List.reverseRecOn with
  | nil => exact explained_start h
  | append_singleton moves m ih =>
      have htracks : (moves.foldl (Move.apply plan) begun).Tracks ⟨true, true⟩ plan :=
        ((Reached.started h).play (are_allowed plan begun moves)).tracks
      rw [List.foldl_append, List.foldl_cons, List.foldl_nil]
      -- a move either ends the work that the run waits for or enters no end of work at all
      by_cases hends : ∃ n ending, EndsWork plan (moves.foldl (Move.apply plan) begun) m n ending
      · obtain ⟨n, ending, rfl, started, remaining, hphase⟩ := hends
        obtain ⟨-, visited, hfollows, -⟩ := htracks.working hphase
        have happly : Move.apply plan (moves.foldl (Move.apply plan) begun) (.finish ending) =
            (moves.foldl (Move.apply plan) begun).finishWork ending := by
          simp [Move.apply, isRunning, hphase]
        rw [happly]
        exact ih.finish rfl hphase hfollows.log.marked.2.1
      · have hnot : ∀ n ending, ¬ EndsWork plan (moves.foldl (Move.apply plan) begun) m n ending :=
          fun n ending hends' => hends ⟨n, ending, hends'⟩
        exact ih.quiet rfl (quiet_move htracks hnot) hnot

/-- A failure in the words for an expired time comes from a time of that many minutes that was up,
from a failure of the kind that counts as one, or from a result that says these words itself. -/
theorem Explained.timed_out (h : Explained plan begun moves o) (he : e ∈ o.events)
    {outcome : TaskOutcome} {minutes : Int} (hkind : e.kind = .taskFailed outcome)
    (herror : outcome.error = some (expiredWords minutes)) :
    ∃ n ending, e.taskId = some n.id ∧ EndedWork plan begun moves n ending ∧
      ((n.timeoutMinutes = some minutes ∧
          (ending = .expired ∨ ∃ failure, ending = .failed failure ∧ failure.kind = timeoutKind)) ∨
        ∃ result, ending = .returned result ∧ result.success = false ∧
          result.error = some (expiredWords minutes)) := by
  obtain ⟨n, -, hid, ⟨ending, hended, hreports⟩ | ⟨words, elapsed, hlimit, hfails⟩⟩ :=
    h.caused e he (by simp [hkind, EventKind.closing?])
  · refine ⟨n, ending, hid, hended, ?_⟩
    rw [hkind] at hreports
    generalize hreported : EventKind.taskFailed outcome = kind at hreports
    cases hreports with
    | returned result =>
        rw [WorkResult.closing] at hreported
        split at hreported
        · cases hreported
        · next hsuccess =>
            cases hreported
            exact .inr ⟨result, rfl, by simpa using hsuccess, herror⟩
    | @raised failure _ elapsed =>
        cases hreported
        exact absurd (Option.some.inj herror) (kind_words_ne_expiredWords _ _ _)
    | @taken failure htimeout elapsed =>
        cases hreported
        exact .inl ⟨timeoutWords_eq_iff.1 (Option.some.inj herror), .inr ⟨failure, rfl, htimeout⟩⟩
    | expired elapsed =>
        cases hreported
        exact .inl ⟨timeoutWords_eq_iff.1 (Option.some.inj herror), .inl rfl⟩
  · obtain rfl := EventKind.taskFailed.inj (hkind.symm.trans hfails)
    exact absurd (Option.some.inj herror) (limitFailure_ne_expiredWords hlimit minutes)

/-- Whatever work does and whenever controls are called: the log and the ends of the work explain
each other, the state says of a task what its end in the log says, and a failure that reads as an
expired time is one, unless the work failed with the kind that counts as one or says so itself. -/
theorem failures_explained (h : idle.start plan = .ok begun) (moves : List Move) :
    let o := moves.foldl (Move.apply plan) begun
    Explained plan begun moves o ∧
      (∀ e ∈ o.events, ∀ id status outcome, e.taskId = some id →
        e.kind.closing? = some (status, outcome) →
        (o.state.resultOf (some id)).status = status ∧
          (o.state.resultOf (some id)).error = outcome.error) ∧
      ∀ e ∈ o.events, ∀ outcome minutes, e.kind = .taskFailed outcome →
        outcome.error = some (expiredWords minutes) →
        ∃ n ending, e.taskId = some n.id ∧ EndedWork plan begun moves n ending ∧
          ((n.timeoutMinutes = some minutes ∧
              (ending = .expired ∨
                ∃ failure, ending = .failed failure ∧ failure.kind = timeoutKind)) ∨
            ∃ result, ending = .returned result ∧ result.success = false ∧
              result.error = some (expiredWords minutes)) := by
  intro o
  have hexplained := explained_play h moves
  obtain ⟨stage, hfollows, -⟩ := ((Reached.started h).play (are_allowed plan begun moves)).tracks
  refine ⟨hexplained, fun e he id status outcome hid hclosing => ?_,
    fun e he outcome minutes hkind herror => hexplained.timed_out he hkind herror⟩
  rw [hfollows.state]
  exact hfollows.log.shows he hid hclosing

/-- The work on a task with a time limit fails in its own words within the time, and in those for an
expired time when the time is up. -/
theorem failures_explained_limit :
    let plan : RunPlan := { graph := {
      nodes := [{ id := "a", name := "first", timeoutMinutes := some 5 }] } }
    let idle : Orchestrator := { clock := .stepping ⟨0, none⟩ 1 }
    let moves (ending : WorkEnd) : List Move := [.report "line", .finish ending]
    ∃ begun, idle.start plan = .ok begun ∧
      let o (ending : WorkEnd) := (moves ending).foldl (Move.apply plan) begun
      (∀ ending, Explained plan begun (moves ending) (o ending)) ∧
        ((o .expired).state.resultOf (some "a")).error = some "Task timed out after 5 minute(s)" ∧
        ((o (.failed ⟨"ValueError", "bad"⟩)).state.resultOf (some "a")).error =
          some "ValueError: bad" := by
  intro plan idle moves
  obtain ⟨begun, hbegun⟩ : ∃ begun, idle.start plan = .ok begun := ⟨_, rfl⟩
  refine ⟨begun, hbegun, fun ending => (failures_explained hbegun (moves ending)).1, ?_⟩
  obtain rfl := Except.ok.inj hbegun
  decide +kernel

/-- A failure of the kind that counts as an expired time is entered as one for a task that has no
time limit. -/
theorem failure_taken_for_timeout :
    let node : Node := { id := "a", name := "first" }
    let plan : RunPlan := { graph := [GraphChange.addNode node].foldl Graph.after Graph.empty }
    let idle : Orchestrator := { clock := .stepping ⟨0, none⟩ 1 }
    let moves : List Move := [.finish (.failed ⟨"TimeoutError", "read timed out"⟩)]
    ∃ begun, idle.start plan = .ok begun ∧ plan.graph.Reachable ∧
      ((moves.foldl (Move.apply plan) begun).state.resultOf (some "a")).error =
        some "Task timed out after None minute(s)" := by
  intro node plan idle moves
  obtain ⟨begun, hbegun⟩ : ∃ begun, idle.start plan = .ok begun := ⟨_, rfl⟩
  refine ⟨begun, hbegun, ⟨_, rfl⟩, ?_⟩
  obtain rfl := Except.ok.inj hbegun
  decide +kernel

end Explained

end BuildGraph
