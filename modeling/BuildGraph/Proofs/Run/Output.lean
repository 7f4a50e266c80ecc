import BuildGraph.Proofs.Graph.Accepted
import BuildGraph.Proofs.Run.Reached
import BuildGraph.Proofs.Work.Processes
import BuildGraph.Work.Simulated

/-!
# Output of work under way

While work goes on, the state collects its output line by line; the result of the work has the lines
joined. `shown_output_spec` says what the state holds: the joined lines without blank ones in front,
which is the output of the result unless a blank line comes first and others follow, or no line
comes at all. `blank_line_lost` is such a case.
-/

namespace BuildGraph

open Orchestrator

/-- The line of output that an event has for a task. -/
def Event.line? (e : Event) (id : String) : Option String :=
  match e.kind with
  | .taskOutput line => if e.taskId = some id then some line else none
  | _ => none

/-- The lines of output that a log has for a task. -/
def outputLines (id : String) (log : List Event) : List String := log.filterMap fun e => e.line? id

/-- The output with further lines that come one after another. -/
def collect (output : Option String) (lines : List String) : Option String :=
  lines.foldl (fun output line => some (RunState.joinOutput output line)) output

/-- What is shown of some lines: all that come from the first one on that is not blank. -/
def shownOutput (lines : List String) : Option String :=
  if lines = [] then none
  else some (String.intercalate "\n" (lines.dropWhile fun line => line == ""))

/-- The lines are some, and a blank one comes first only if it comes alone. -/
def IsPlain (lines : List String) : Prop :=
  lines ≠ [] ∧ ∀ second more, lines ≠ "" :: second :: more

variable {r : Rules} {plan : RunPlan} {log : List Event} {e : Event} {n : Node} {id : String}
  {lines : List String} {o : Orchestrator}

section Joining

/-- Joined lines are no empty text when the first is none. -/
theorem intercalate_ne_empty {line : String} (h : line ≠ "") (lines : List String) :
    String.intercalate "\n" (line :: lines) ≠ "" := by
  cases lines with
  | nil => simpa using h
  | cons next lines =>
      intro heq
      have hlength := congrArg String.length heq
      simp [String.intercalate_cons_cons] at hlength

/-- A further line is joined to what is shown of those before it. -/
theorem shownOutput_concat (lines : List String) (line : String) :
    shownOutput (lines ++ [line]) = some (RunState.joinOutput (shownOutput lines) line) := by
  have hsingle : String.intercalate "\n" ([line].dropWhile fun line => line == "") = line := by
    by_cases hblank : line = "" <;> simp [hblank]
  by_cases hnil : lines = []
  · simp [hnil, shownOutput, RunState.joinOutput, hsingle]
  · rw [shownOutput, if_neg (by simp), shownOutput, if_neg hnil, List.dropWhile_append]
    cases hkept : lines.dropWhile fun line => line == "" with
    | nil => simp [RunState.joinOutput, hsingle]
    | cons first more =>
        have hfirst : first ≠ "" := by
          have hhead := List.head_dropWhile_not (fun line => line == "") (l := lines)
            (by simp [hkept])
          simpa [hkept] using hhead
        rw [if_neg (by simp), RunState.joinOutput, if_neg (intercalate_ne_empty hfirst more),
          String.intercalate_append_of_ne_nil (by simp) (by simp), String.intercalate_singleton]

theorem collect_append (output : Option String) (front back : List String) :
    collect output (front ++ back) = collect (collect output front) back := by
  rw [collect, collect, collect, List.foldl_append]

/-- What is collected of lines is what is shown of them. -/
theorem collect_eq (lines : List String) : collect none lines = shownOutput lines := by
  induction lines using List.reverseRecOn with
  | nil => rfl
  | append_singleton lines line ih =>
      rw [shownOutput_concat, ← ih, collect_append]
      rfl

theorem length_intercalate_dropWhile_le (lines : List String) :
    (String.intercalate "\n" (lines.dropWhile fun line => line == "")).length ≤
      (String.intercalate "\n" lines).length := by
  induction lines with
  | nil => simp
  | cons line lines ih =>
      by_cases hblank : line = ""
      · cases lines with
        | nil => simp [hblank]
        | cons next lines =>
            rw [String.intercalate_cons_cons, List.dropWhile_cons_of_pos (by simpa using hblank)]
            simp only [String.length_append]
            omega
      · rw [List.dropWhile_cons_of_neg (by simpa using hblank)]

/-- What is shown are the joined lines exactly when they are plain. -/
theorem shownOutput_eq_joined_iff (lines : List String) :
    shownOutput lines = some (String.intercalate "\n" lines) ↔ IsPlain lines := by
  rw [shownOutput, IsPlain]
  match lines with
  | [] => simp
  | [line] => by_cases hblank : line = "" <;> simp [hblank]
  | line :: next :: lines =>
      by_cases hblank : line = ""
      · -- the line break behind the blank line is lost, so what is shown is shorter
        have hle := length_intercalate_dropWhile_le (next :: lines)
        subst hblank
        refine iff_of_false (fun heq => ?_) (by simp)
        rw [if_neg (by simp), Option.some.injEq, List.dropWhile_cons_of_pos (by simp)] at heq
        rw [heq, String.intercalate_cons_cons, String.length_append, String.length_append] at hle
        simp at hle
      · simp [hblank]

end Joining

section Collecting

/-- An event that does not enter an end of work on a task adds its line to the output. -/
theorem output_of_enter (hid : e.taskId = some id) (hopen : e.kind.closing? = none)
    (result : TaskResult) :
    (result.enter e).output = collect result.output (e.line? id).toList := by
  rw [TaskResult.enter, Event.line?]
  cases hkind : e.kind <;> simp_all [EventKind.closing?, collect]

/-- Events that make no new state and enter no end of work on a task collect its output. -/
theorem RunState.output_of_foldl (hlog : ∀ e ∈ log, e.kind.isOpening = false)
    (hopen : ∀ e ∈ log, e.taskId = some id → e.kind.closing? = none) (s : RunState) :
    ((log.foldl apply s).resultOf (some id)).output =
      collect (s.resultOf (some id)).output (outputLines id log) := by
  rw [result_of_foldl_enter hlog]
  generalize s.resultOf (some id) = result
  clear hlog
  induction log generalizing result with
  | nil => rfl
  | cons e log ih =>
      obtain ⟨heopen, hopen⟩ := List.forall_mem_cons.1 hopen
      have hlines : outputLines id (e :: log) = (e.line? id).toList ++ outputLines id log := by
        cases hline : e.line? id <;> simp [outputLines, hline]
      by_cases hid : e.taskId = some id
      · rw [List.filter_cons_of_pos (by simpa using hid), List.foldl_cons, ih hopen,
          output_of_enter hid (heopen hid), hlines, collect_append]
      · have hline : e.line? id = none := by
          rw [Event.line?]
          split <;> simp [hid]
        rw [List.filter_cons_of_neg (by simpa using hid), ih hopen, hlines, hline]
        rfl

/-- What is shown of a task under way are the lines that the log has for it. -/
theorem RunLog.shown_output {context : GuardContext} {visited remaining : List String}
    (h : RunLog r plan context log (.working visited n remaining)) :
    ((replay log).resultOf (some n.id)).output = shownOutput (outputLines n.id log) := by
  have hmarks : marks n.id log = [.started] := h.marked.2.2.1
  have hopen : ∀ e ∈ log, e.taskId = some n.id → e.kind.closing? = none := by
    intro e he hid
    by_contra hclosing
    obtain ⟨m, hm, hmark⟩ : ∃ m, m ≠ .started ∧ e.kind.mark? = some m := by
      cases hkind : e.kind <;> simp_all [EventKind.closing?, EventKind.mark?]
    have hmem := mem_marks.2 ⟨e, he, hid, hmark⟩
    rw [hmarks, List.mem_singleton] at hmem
    exact hm hmem
  have horder : n.id ∈ plan.order := by
    rw [← h.order_eq]
    simp [Stage.entered]
  obtain ⟨first, names, rest, rfl, hfirst, -, hrest⟩ := h.head
  have hlines : outputLines n.id (first :: rest) = outputLines n.id rest := by
    simp [outputLines, Event.line?, hfirst]
  rw [replay, List.foldl_cons, RunState.output_of_foldl hrest
    (fun e he => hopen e (List.mem_cons_of_mem _ he)),
    RunState.result_of_started hfirst horder, hlines, collect_eq]

/-- Lines that work reports come to the end of the output, and the run waits on. -/
theorem report_all {started : Timestamp} {remaining : List String}
    (hphase : o.phase = .working plan n started remaining) (lines : List String) :
    (lines.foldl report o).phase = o.phase ∧
      outputLines n.id (lines.foldl report o).events = outputLines n.id o.events ++ lines := by
  induction lines generalizing o with
  | nil => simp
  | cons line lines ih =>
      have hreport : o.report line = o.enterLine n line := by
        rw [report, hphase]
      obtain ⟨hphase', hlines⟩ := ih (o := o.report line) (by rw [hreport]; exact hphase)
      rw [List.foldl_cons, hphase', hlines, hreport]
      refine ⟨rfl, ?_⟩
      simp [enterLine, Orchestrator.record, outputLines, Event.line?]

end Collecting

section Working

/-- The lines of a simulation are plain, and its output are these lines. -/
theorem simulated_output (s : Simulation) (request : WorkRequest) :
    IsPlain (s.perform request).1 ∧
      (s.perform request).2.1.output = String.intercalate "\n" (s.perform request).1 := by
  refine ⟨⟨by simp [Simulation.perform], fun second more heq => ?_⟩, rfl⟩
  have hhead : "> Task :" ++ request.taskName = "" := by
    simpa [Simulation.perform] using congrArg List.head? heq
  have hlength := congrArg String.length hhead
  simp at hlength

/-- The output of a process that was watched to its end are its lines. -/
theorem watched_output {process : ProcessCourse} {stop : Nat → Option WatchBreak}
    {result : WorkResult} (h : (process.watch stop).ending = .ok result) :
    result.output = String.intercalate "\n" (process.watch stop).lines := by
  unfold ProcessCourse.watch at h ⊢
  exact run_output h

/-- What is shown of a task under way, compared with the lines of its work. -/
structure ShowsLines (plan : RunPlan) (n : Node) (lines : List String) (output : Option String) :
    Prop where
  shown : output = shownOutput lines
  joined_iff : output = some (String.intercalate "\n" lines) ↔ IsPlain lines
  /-- The result of a simulation has the output that is shown. -/
  simulated : ∀ s : Simulation, lines = (s.perform (plan.request n)).1 →
    output = some (s.perform (plan.request n)).2.1.output
  /-- The result of a process has the output that is shown exactly when its lines are plain. -/
  watched : ∀ (process : ProcessCourse) stop result, (process.watch stop).ending = .ok result →
    lines = (process.watch stop).lines → (output = some result.output ↔ IsPlain lines)
  /-- The result of a process that could not be started has an empty output, and none is shown. -/
  unstarted : ∀ (tool : BuildTool) failure result, tool.startFailure failure = .returned result →
    lines = [] → output = none ∧ result.output = ""

theorem shows_lines (plan : RunPlan) (n : Node) (lines : List String) :
    ShowsLines plan n lines (shownOutput lines) where
  shown := rfl
  joined_iff := shownOutput_eq_joined_iff lines
  simulated := by
    rintro s rfl
    obtain ⟨hplain, houtput⟩ := simulated_output s (plan.request n)
    rw [houtput]
    exact (shownOutput_eq_joined_iff _).2 hplain
  watched := by
    rintro process stop result hending rfl
    rw [watched_output hending]
    exact shownOutput_eq_joined_iff _
  unstarted := by
    rintro tool failure result hstart rfl
    rw [BuildTool.startFailure] at hstart
    split at hstart
    · cases hstart
      exact ⟨rfl, rfl⟩
    · cases hstart

/-- Whatever events come after a state in which a task has no output, as long as none makes a new
state or enters the end of the work on the task, and whatever a run does that waits for the work on
a task: the lines so far are shown without the blank ones in front. They are the joined lines
exactly when no blank line comes before another and there is one at all; so a result of a simulation
always has the output that is shown, and a result of a process not always. -/
theorem shown_output_spec (plan : RunPlan) (id : String) :
    (∀ (s : RunState) log, (s.resultOf (some id)).output = none →
      (∀ e ∈ log, e.kind.isOpening = false) →
      (∀ e ∈ log, e.taskId = some id → e.kind.closing? = none) →
      ((log.foldl RunState.apply s).resultOf (some id)).output =
        shownOutput (outputLines id log)) ∧
    ∀ r o n started remaining, Reached r plan o →
      o.phase = .working plan n started remaining →
      ShowsLines plan n (outputLines n.id o.events) (o.state.resultOf (some n.id)).output ∧
        ∀ lines, (lines.foldl report o).phase = o.phase ∧
          outputLines n.id (lines.foldl report o).events = outputLines n.id o.events ++ lines := by
  refine ⟨fun s log hnone hlog hopen => ?_,
    fun r o n started remaining h hphase => ⟨?_, report_all hphase⟩⟩
  · rw [RunState.output_of_foldl hlog hopen, hnone, collect_eq]
  · obtain ⟨-, visited, hfollows, -⟩ := h.tracks.working hphase
    rw [hfollows.state, hfollows.log.shown_output]
    exact shows_lines plan n _

/-- While a simulation works the output of its result is shown, and of a blank line and one behind
it the second. -/
theorem shown_output_spec_simulated :
    let node : Node := { id := "a", name := "first" }
    let plan : RunPlan := { graph := { nodes := [node] } }
    let idle : Orchestrator := { clock := .stepping ⟨0, none⟩ 1 }
    let s : Simulation := { chance := { fractions := [] } }
    let work := s.perform (plan.request node)
    let log : List Event := ["", "x"].map fun line =>
      { kind := .taskOutput line, timestamp := ⟨0, none⟩, taskId := some "a" }
    ∃ begun, idle.start plan = .ok begun ∧
      let o := (work.1.map Move.report).foldl (Move.apply plan) begun
      o.phase = .working plan node ⟨2, none⟩ [] ∧ outputLines "a" o.events = work.1 ∧
        (o.state.resultOf (some "a")).output = some work.2.1.output ∧
        ((log.foldl RunState.apply {}).resultOf (some "a")).output = some "x" := by
  intro node plan idle s work log
  obtain ⟨begun, hbegun⟩ : ∃ begun, idle.start plan = .ok begun := ⟨_, rfl⟩
  refine ⟨begun, hbegun, ?_⟩
  intro o
  have hreached : Reached ⟨true, true⟩ plan o :=
    (Reached.started hbegun).play (are_allowed plan begun _)
  have hphase : o.phase = .working plan node ⟨2, none⟩ [] := by
    obtain rfl := Except.ok.inj hbegun
    decide +kernel
  have hlines : outputLines "a" o.events = work.1 := by
    obtain rfl := Except.ok.inj hbegun
    decide +kernel
  have hlog : shownOutput (outputLines "a" log) = some "x" := by decide +kernel
  obtain ⟨hfold, hrun⟩ := shown_output_spec plan "a"
  exact ⟨hphase, hlines, (hrun _ o node _ _ hreached hphase).1.simulated s hlines,
    (hfold {} log rfl (by simp [log, EventKind.isOpening])
      (by simp [log, EventKind.closing?])).trans hlog⟩

/-- A blank line with one behind it comes out without the line break between them, although the
result of the work has it. -/
theorem blank_line_lost :
    let node : Node := { id := "a", name := "first" }
    let graph := [GraphChange.addNode node].foldl Graph.after Graph.empty
    let idle : Orchestrator := { clock := .stepping ⟨0, none⟩ 1 }
    let watched := ({ output := [10, 120, 10] } : ProcessCourse).watch fun _ => none
    graph.Reachable ∧ watched.lines = ["", "x"] ∧
      ∃ begun, idle.start { graph } = .ok begun ∧
        ∃ result, watched.ending = .ok result ∧
          result.output = String.intercalate "\n" watched.lines ∧ result.output = "\nx" ∧
          let o := watched.lines.foldl report begun
          outputLines "a" o.events = watched.lines ∧
            (o.state.resultOf (some "a")).output = some "x" := by
  refine ⟨⟨_, rfl⟩, by decide +kernel, _, rfl, _, rfl, by decide +kernel, by decide +kernel, ?_⟩
  decide +kernel

end Working

end BuildGraph
