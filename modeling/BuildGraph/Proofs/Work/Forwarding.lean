import Mathlib
import BuildGraph.Work.Bridge

/-!
# Lines of a host are passed on

As long as the host is listened to, every line that it tells for a task is passed on, and what was
passed on has arrived or is under way (`Forwarding.Sound`). A line is under way until it had its
turns, so those that are left at the end are the ones that came too late for that (`lateLines`,
`heard_spec`). `forwarding_spec` says what comes of it however the host ends; `line_under_way` is a
line that has not arrived when the host fails.
-/

namespace BuildGraph

/-- The lines that news have for a task. -/
def toldLines (taskName : String) : List HostNews → List String
  | [] => []
  | .turn :: rest => toldLines taskName rest
  | .told event :: rest => (event.line? taskName).toList ++ toldLines taskName rest

/-- The lines that had fewer turns than they take, where the first one has the number `n`. -/
def lateLines (taskName : String) (turns : Nat → Nat) (n : Nat) : List HostNews → List String
  | [] => []
  | .turn :: rest => lateLines taskName turns n rest
  | .told event :: rest =>
    match event.line? taskName with
    | none => lateLines taskName turns n rest
    | some line =>
      if rest.count .turn < turns n then line :: lateLines taskName turns (n + 1) rest
      else lateLines taskName turns (n + 1) rest

namespace Forwarding

variable {f f' : Forwarding} {taskName : String} {turns : Nat → Nat}

/-- What was passed on has arrived or is under way, once each. -/
structure Sound (f : Forwarding) : Prop where
  balanced : (f.arrived.toList ++ f.underWay.map Transit.line).Perm f.passed.toList
  positive : ∀ t ∈ f.underWay, 0 < t.turns

section Turns

/-- The lines that take more than some turns. -/
def beyond (f : Forwarding) (turns : Nat) : List String :=
  (f.underWay.filter (turns < ·.turns)).map Transit.line

/-- A turn brings the lines that are under way one turn further. -/
theorem beyond_turn (f : Forwarding) (k : Nat) : f.turn.beyond k = f.beyond (k + 1) := by
  unfold turn beyond
  induction f.underWay with
  | nil => rfl
  | cons t rest ih =>
      by_cases hone : 1 < t.turns
      · by_cases hmore : k + 1 < t.turns
        · have hless : k < t.turns - 1 := by omega
          simpa [hone, hmore, hless] using ih
        · have hless : ¬ k < t.turns - 1 := by omega
          simpa [hone, hmore, hless] using ih
      · have hmore : ¬ k + 1 < t.turns := by omega
        simpa [hone, hmore] using ih

theorem Sound.beyond_zero (h : f.Sound) : f.beyond 0 = f.underWay.map Transit.line := by
  have hall : f.underWay.filter (0 < ·.turns) = f.underWay :=
    List.filter_eq_self.2 fun t ht => by simpa using h.positive t ht
  rw [beyond, hall]

theorem Sound.turn (h : f.Sound) : f.turn.Sound where
  balanced := by
    have hsplit : (f.underWay.filter (·.turns ≤ 1) ++ f.underWay.filter (1 < ·.turns)).Perm
        f.underWay := by
      have hparts := List.filter_append_perm (fun t : Transit => t.turns ≤ 1) f.underWay
      simpa only [← not_le, decide_not] using hparts
    have hlines := (hsplit.map Transit.line).append_left f.arrived.toList
    refine List.Perm.trans (List.Perm.of_eq ?_) (hlines.trans h.balanced)
    simp [Forwarding.turn, Function.comp_def]
  positive := by
    intro t ht
    obtain ⟨before, hbefore, rfl⟩ := List.mem_map.1 ht
    have hmore : 1 < before.turns := by simpa using (List.mem_filter.1 hbefore).2
    exact Nat.sub_pos_of_lt hmore

theorem repeat_turn_beyond (n k : Nat) :
    (Nat.repeat turn n f).beyond k = f.beyond (n + k) := by
  induction n generalizing k with
  | zero => rw [Nat.zero_add]; rfl
  | succ n ih =>
      show (Nat.repeat turn n f).turn.beyond k = _
      rw [beyond_turn, ih, Nat.add_right_comm, Nat.add_assoc]

theorem Sound.repeat_turn (h : f.Sound) (n : Nat) : (Nat.repeat Forwarding.turn n f).Sound := by
  induction n with
  | zero => exact h
  | succ n ih => exact ih.turn

theorem le_longest {transits : List Transit} {t : Transit} (h : t ∈ transits) :
    t.turns ≤ transits.foldr (fun t longest => max t.turns longest) 0 := by
  induction transits with
  | nil => cases h
  | cons first rest ih =>
      rcases List.mem_cons.1 h with rfl | h
      · exact Nat.le_max_left _ _
      · exact (ih h).trans (Nat.le_max_right _ _)

/-- Whatever is under way arrives if it is waited for. -/
theorem Sound.await (h : f.Sound) : f.await.Sound ∧ f.await.underWay = [] := by
  have hsound := h.repeat_turn (f.underWay.foldr (fun t longest => max t.turns longest) 0)
  refine ⟨hsound, List.map_eq_nil_iff.1 (hsound.beyond_zero.symm.trans ?_)⟩
  rw [repeat_turn_beyond, Nat.add_zero, beyond, List.map_eq_nil_iff, List.filter_eq_nil_iff]
  intro t ht
  simpa using le_longest ht

theorem repeat_turn_rest (n : Nat) : (Nat.repeat turn n f).passed = f.passed ∧
    (Nat.repeat turn n f).listeners = f.listeners ∧ (Nat.repeat turn n f).stopped = f.stopped := by
  induction n with
  | zero => exact ⟨rfl, rfl, rfl⟩
  | succ n ih => exact ih

end Turns

section Hearing

variable {news : List HostNews}

theorem Sound.pass (h : f.Sound) (n : Nat) (line : String) : (f.pass n line).Sound := by
  unfold Forwarding.pass
  split_ifs with hn
  · refine ⟨?_, h.positive⟩
    have hmoved : (f.arrived.toList ++ [line] ++ f.underWay.map Transit.line).Perm
        (f.arrived.toList ++ f.underWay.map Transit.line ++ [line]) := by
      rw [List.append_assoc, List.append_assoc]
      exact List.perm_append_comm.append_left _
    simpa using hmoved.trans (h.balanced.append_right [line])
  · refine ⟨?_, ?_⟩
    · simpa using h.balanced.append_right [line]
    · refine List.forall_mem_append.2 ⟨h.positive, List.forall_mem_singleton.2 ?_⟩
      exact Nat.pos_of_ne_zero hn

/-- A line that is passed on is under way if it takes more turns than there are. -/
theorem beyond_pass (f : Forwarding) (n : Nat) (line : String) (k : Nat) :
    (f.pass n line).beyond k = f.beyond k ++ if k < n then [line] else [] := by
  unfold pass
  split_ifs with hn hk hk
  · omega
  · exact (List.append_nil _).symm
  · simp [beyond, hk]
  · simp [beyond, hk]

/-- What is heard while the host is listened to. -/
theorem heard_spec (taskName : String) (turns : Nat → Nat) (news : List HostNews) (h : f.Sound)
    (hlisten : f.listeners ≠ 0) :
    (news.foldl (hear taskName turns) f).Sound ∧
      (news.foldl (hear taskName turns) f).passed.toList =
        f.passed.toList ++ toldLines taskName news ∧
      (news.foldl (hear taskName turns) f).beyond 0 =
        f.beyond (news.count .turn) ++ lateLines taskName turns f.passed.size news ∧
      (news.foldl (hear taskName turns) f).listeners = f.listeners ∧
      (news.foldl (hear taskName turns) f).stopped = f.stopped := by
  induction news generalizing f with
  | nil => simp [toldLines, lateLines, h]
  | cons first rest ih =>
      rw [List.foldl_cons]
      cases first with
      | turn =>
          obtain ⟨hsound, hpassed, hbeyond, hlisteners, hstopped⟩ := ih h.turn hlisten
          refine ⟨hsound, hpassed, ?_, hlisteners, hstopped⟩
          rw [List.count_cons_self, ← beyond_turn]
          exact hbeyond
      | told event =>
          have hcount : (HostNews.told event :: rest).count .turn = rest.count .turn :=
            List.count_cons_of_ne (by simp)
          rw [hcount]
          unfold toldLines lateLines
          cases hline : event.line? taskName with
          | none =>
              have hheard : hear taskName turns f (.told event) = f := by
                simp [hear, hline]
              rw [hheard]
              exact ih h hlisten
          | some line =>
              have hheard : hear taskName turns f (.told event) =
                  f.pass (turns f.passed.size) line := by
                simp [hear, hline, hlisten]
              have hkept : (f.pass (turns f.passed.size) line).listeners = f.listeners ∧
                  (f.pass (turns f.passed.size) line).stopped = f.stopped ∧
                  (f.pass (turns f.passed.size) line).passed = f.passed.push line := by
                unfold pass
                split_ifs
                · exact ⟨rfl, rfl, rfl⟩
                · exact ⟨rfl, rfl, rfl⟩
              obtain ⟨hlisteners', hstopped', hpassed'⟩ := hkept
              rw [hheard]
              obtain ⟨hsound, hpassed, hbeyond, hlisteners, hstopped⟩ :=
                ih (h.pass (turns f.passed.size) line) (hlisteners'.trans_ne hlisten)
              refine ⟨hsound, ?_, ?_, hlisteners.trans hlisteners', hstopped.trans hstopped'⟩
              · rw [hpassed, hpassed', Array.toList_push, List.append_assoc]
                rfl
              · rw [hbeyond, beyond_pass, hpassed', Array.size_push, List.append_assoc]
                split_ifs
                · rfl
                · rfl

theorem pass_stop (f : Forwarding) (name : String) (n : Nat) (line : String) :
    (f.stop name).pass n line = (f.pass n line).stop name := by
  unfold pass
  split_ifs
  · rfl
  · rfl

theorem hear_stop (f : Forwarding) (name : String) (first : HostNews) :
    hear taskName turns (f.stop name) first = (hear taskName turns f first).stop name := by
  cases first with
  | turn => rfl
  | told event =>
      have hlisteners : (f.stop name).listeners = f.listeners := rfl
      rw [hear, hear, hlisteners]
      by_cases hnone : f.listeners = 0
      · rw [if_pos hnone, if_pos hnone]
      · rw [if_neg hnone, if_neg hnone]
        cases event.line? taskName with
        | none => rfl
        | some line => exact pass_stop f name _ line

/-- What is heard does not depend on what the host was asked to stop. -/
theorem heard_stop (f : Forwarding) (name : String) :
    news.foldl (hear taskName turns) (f.stop name) =
      (news.foldl (hear taskName turns) f).stop name := by
  induction news generalizing f with
  | nil => rfl
  | cons first rest ih => rw [List.foldl_cons, hear_stop, ih, List.foldl_cons]

end Hearing

end Forwarding

/-- What is heard of a run of a host: also while it is asked to stop the task. -/
def HostRun.heard (h : HostRun) : List HostNews :=
  if h.ending = .calledOff then h.news ++ h.stopping else h.news

section Forwarded

variable {h : HostRun} {r : WorkRequest} {turns : Nat → Nat}

/-- A listener hears of a run from its beginning. -/
def HostRun.listened (h : HostRun) (r : WorkRequest) (turns : Nat → Nat) : Forwarding :=
  h.heard.foldl (Forwarding.hear r.taskName turns) (Forwarding.subscribe {})

theorem forward_returned {result : WorkResult} (hending : h.ending = .returned result) :
    h.forward r turns = (h.listened r turns).unsubscribe.await.watch h.ending := by
  unfold HostRun.forward HostRun.listened HostRun.heard
  simp [hending]

theorem forward_calledOff (hending : h.ending = .calledOff) :
    h.forward r turns = ((h.listened r turns).stop r.taskName).unsubscribe.watch h.ending := by
  unfold HostRun.forward HostRun.listened HostRun.heard
  simp [hending, Forwarding.heard_stop, List.foldl_append]

theorem forward_failed (hreturned : ∀ result, h.ending ≠ .returned result)
    (hcalled : h.ending ≠ .calledOff) :
    h.forward r turns = (h.listened r turns).unsubscribe.watch h.ending := by
  unfold HostRun.forward HostRun.listened HostRun.heard
  simp only [if_neg hcalled]

/-- What a listener has heard in the end. -/
theorem listened_spec (h : HostRun) (r : WorkRequest) (turns : Nat → Nat) :
    (h.listened r turns).Sound ∧
      (h.listened r turns).passed.toList = toldLines r.taskName h.heard ∧
      (h.listened r turns).underWay.map Transit.line = lateLines r.taskName turns 0 h.heard ∧
      (h.listened r turns).listeners = 1 ∧ (h.listened r turns).stopped = [] := by
  have hstart : (Forwarding.subscribe {}).Sound :=
    ⟨List.Perm.refl _, fun t ht => absurd ht List.not_mem_nil⟩
  obtain ⟨hsound, hpassed, hbeyond, hlisteners, hstopped⟩ :=
    Forwarding.heard_spec r.taskName turns h.heard hstart (by decide)
  exact ⟨hsound, hpassed, hsound.beyond_zero.symm.trans hbeyond, hlisteners, hstopped⟩

end Forwarded

/-- Whatever a host tells while it is at work, and however it ends: the lines for the task are
passed on, once each and in order, and each has arrived or is under way in the end. If the host came
to a result nothing is under way, and otherwise exactly the lines that had fewer turns than they
take. The host is listened to no longer, and is asked to stop the task exactly if the work was
called off. -/
theorem forwarding_spec (h : HostRun) (r : WorkRequest) (turns : Nat → Nat) :
    let watched := h.forward r turns
    watched.ending = h.ending ∧ watched.passed = toldLines r.taskName h.heard ∧
      (watched.lines ++ watched.underWay).Perm watched.passed ∧
      (∀ result, h.ending = .returned result → watched.underWay = []) ∧
      ((∀ result, h.ending ≠ .returned result) →
        watched.underWay = lateLines r.taskName turns 0 h.heard) ∧
      watched.listeners = 0 ∧
      watched.stopped = if h.ending = .calledOff then [r.taskName] else [] := by
  intro watched
  obtain ⟨hsound, hpassed, hlate, hlisteners, hstopped⟩ := listened_spec h r turns
  have hunsubscribed : (h.listened r turns).unsubscribe.Sound := ⟨hsound.balanced, hsound.positive⟩
  have hnone : (h.listened r turns).listeners - 1 = 0 := by rw [hlisteners]
  by_cases hreturned : ∃ result, h.ending = .returned result
  · obtain ⟨result, hending⟩ := hreturned
    have hwatched : watched = _ := forward_returned hending
    obtain ⟨hawaited, hempty⟩ := hunsubscribed.await
    obtain ⟨hkept, hlistening, hasked⟩ :=
      Forwarding.repeat_turn_rest (f := (h.listened r turns).unsubscribe) _
    rw [hwatched]
    refine ⟨rfl, ?_, hawaited.balanced, fun _ _ => ?_, fun hnot => absurd hending (hnot result),
      ?_, ?_⟩
    · exact (congrArg Array.toList hkept).trans hpassed
    · exact congrArg (List.map Transit.line) hempty
    · exact hlistening.trans hnone
    · rw [if_neg (by simp [hending])]
      exact hasked.trans hstopped
  · have hnot : ∀ result, h.ending ≠ .returned result := not_exists.1 hreturned
    by_cases hcalled : h.ending = .calledOff
    · have hwatched : watched = _ := forward_calledOff hcalled
      rw [hwatched, if_pos hcalled]
      refine ⟨rfl, hpassed, hsound.balanced, fun result hending => absurd hending (hnot result),
        fun _ => hlate, hnone, ?_⟩
      exact congrArg (· ++ [r.taskName]) hstopped
    · have hwatched : watched = _ := forward_failed hnot hcalled
      rw [hwatched, if_neg hcalled]
      exact ⟨rfl, hpassed, hsound.balanced, fun result hending => absurd hending (hnot result),
        fun _ => hlate, hnone, hstopped⟩

/-- A host that works for other tasks besides comes to a result while a line is under way; and the
work that is called off is stopped. -/
theorem forwarding_spec_result :
    let request : WorkRequest := { taskId := "a", taskName := "jar" }
    let told (taskName line : String) := HostNews.told { kind := .output, taskName, data := line }
    let news :=
      [told "jar" "packing", told "test" "running", told "jar" "", .turn, told "jar" "done"]
    let returned := HostRun.forward { news, ending := .returned {} } request fun _ => 1
    let stopped := HostRun.forward { news, ending := .calledOff } request fun _ => 1
    returned.passed = ["packing", "done"] ∧ returned.underWay = [] ∧
      stopped.lines = ["packing"] ∧ stopped.underWay = ["done"] ∧ stopped.stopped = ["jar"] := by
  intro request told news returned stopped
  obtain ⟨-, hpassed, -, hempty, -⟩ :=
    forwarding_spec { news, ending := .returned {} } request fun _ => 1
  obtain ⟨-, -, -, -, hlate, -, hstopped⟩ :=
    forwarding_spec { news, ending := .calledOff } request fun _ => 1
  refine ⟨hpassed.trans (by decide), hempty {} rfl, by decide, ?_, hstopped⟩
  exact (hlate fun result hending => by cases hending).trans (by decide)

/-- A line takes a turn to arrive, and the host fails before: nobody waits for the line, which is
still under way when the work has ended. -/
theorem line_under_way :
    let request : WorkRequest := { taskId := "a", taskName := "jar" }
    let packing : HostEvent := { kind := .output, taskName := "jar", data := some "packing" }
    let failed : WorkEnd := .failed ⟨"RuntimeError", "down"⟩
    let watched := HostCourse.forward ⟨[packing], failed⟩ request true
    watched.ending = failed ∧ watched.passed = ["packing"] ∧ watched.lines = [] ∧
      watched.underWay = ["packing"] := by
  intro request packing failed watched
  have hpassed : watched.passed = ["packing"] := by decide
  have hlines : watched.lines = [] := by decide
  exact ⟨rfl, hpassed, hlines, by decide⟩

end BuildGraph
