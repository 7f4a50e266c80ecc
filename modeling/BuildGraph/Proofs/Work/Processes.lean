import Mathlib
import BuildGraph.Work.Process

/-!
# No process outlives its task

While a process is under watch it has not been killed, and the lines that were reported are the
first of its output, however the output arrives in chunks (`Watching.Sound`, `Watching.Advances`).
Whatever is heard of the process keeps this up or ends the watching (`Watching.hear_proceeds`), and
whoever ends the watching leaves no process behind: `Watching.run_watched` says so for all news there
may be.
-/

namespace BuildGraph

/-- The pieces of output that are reported as lines. A break at the end opens no further line. -/
def outputPieces (bytes : List UInt8) : List (List UInt8) :=
  let pieces := bytes.splitOn 10
  if pieces.getLast? = some [] then pieces.dropLast else pieces

/-- The output of which news tell, unless it has ended before. -/
def heardOutput : Bool → List ProcessNews → List UInt8
  | true, _ => []
  | false, [] => []
  | false, .output chunk :: later => chunk ++ heardOutput false later
  | false, .closed :: _ => []
  | false, _ :: later => heardOutput false later

@[simp]
theorem heardOutput_closed (news : List ProcessNews) : heardOutput true news = [] := by
  cases news <;> rfl

/-- The process exited, or was killed, and then waited for. -/
structure ChildProcess.IsOver (p : ChildProcess) : Prop where
  exited : p.exitCode.isSome = true
  awaited : p.killed = true → p.awaited = true

/-- Why a watching is cut short when some lines were reported: by the news, while the last one of
them is reported, because of a line that is too long, or because there are no more news before the
output has ended and the exit is known. -/
inductive CutShort (deliver : Nat → Delivery) (w : Watching) (news : List ProcessNews)
    (reported : Nat) : WatchBreak → Prop
  | broken {cause : WatchBreak} (h : .broken cause ∈ news) :
      CutShort deliver w news reported cause
  | delivery {cause : WatchBreak} {n : Nat} (h : (deliver n).stop = some cause)
      (hlast : reported = n + 1) : CutShort deliver w news reported cause
  | line {fault : LineFault} {piece : List UInt8}
      (h : piece ∈ outputPieces (w.line.reverse ++ heardOutput w.closed news))
      (hlong : lineLimit < piece.length) : CutShort deliver w news reported (.line fault)
  | unfinished (h : w.closed = false ∧ .closed ∉ news ∨
      w.process.exitCode = none ∧ ∀ code, .exited code ∉ news) :
      CutShort deliver w news reported .calledOff

section Pieces

variable {line rest piece : List UInt8}

theorem splitOn_unbroken (h : 10 ∉ line) : line.splitOn 10 = [line] := by
  have hjoined : ([10].intercalate [line]).splitOn 10 = [line] :=
    List.splitOn_intercalate 10 (by simpa using h) (by simp)
  simpa using hjoined

/-- A break ends a line. -/
theorem outputPieces_break (h : 10 ∉ line) (rest : List UInt8) :
    outputPieces (line ++ 10 :: rest) = line :: outputPieces rest := by
  have hsplit : (line ++ 10 :: rest).splitOn 10 = line :: rest.splitOn 10 := by
    have hparts := List.splitOnP_append_cons (p := (· == 10)) line rest (beq_self_eq_true 10)
    rw [show line.splitOnP (· == 10) = [line] from splitOn_unbroken h] at hparts
    exact hparts
  unfold outputPieces
  rw [hsplit]
  obtain ⟨first, more, hrest⟩ := List.exists_cons_of_ne_nil (List.splitOn_ne_nil 10 rest)
  rw [hrest]
  dsimp only
  rw [List.getLast?_cons_cons]
  split_ifs
  · exact List.dropLast_cons_cons
  · rfl

/-- What has no break is one line, if it is anything. -/
theorem outputPieces_line (h : 10 ∉ line) :
    outputPieces line = if line = [] then [] else [line] := by
  unfold outputPieces
  simp [splitOn_unbroken h]

/-- What has been read of a line is part of a line of the output. -/
theorem exists_long_piece (h : 10 ∉ line) (hne : line ≠ []) (rest : List UInt8) :
    ∃ piece ∈ outputPieces (line ++ rest), line.length ≤ piece.length := by
  by_cases hmem : (10 : UInt8) ∈ rest
  · obtain ⟨before, after, rfl, hbefore⟩ := List.eq_append_cons_of_mem hmem
    refine ⟨line ++ before, ?_, by simp⟩
    rw [← List.append_assoc, outputPieces_break (by simp [h, hbefore]) after]
    exact List.mem_cons_self
  · refine ⟨line ++ rest, ?_, by simp⟩
    rw [outputPieces_line (by simp [h, hmem])]
    simp [hne]

end Pieces

namespace Watching

variable {deliver : Nat → Delivery} {w w' w'' : Watching} {bytes later more : List UInt8}
  {news : ProcessNews} {rest : List ProcessNews} {ended : ProcessWatch} {cause : WatchBreak}

/-- A process under watch has not been killed, and the present line is not broken. -/
structure Sound (w : Watching) : Prop where
  unbroken : 10 ∉ w.line
  counted : w.size = w.line.length
  alive : w.process.killed = false
  emptied : w.closed = true → w.line = []

/-- The first lines of what is to be read have been reported. An exit code that is known stays
known. -/
structure Advances (w w' : Watching) (bytes later : List UInt8) : Prop where
  reported : ∃ cut,
    outputPieces (w.line.reverse ++ bytes) = cut ++ outputPieces (w'.line.reverse ++ later) ∧
      w'.lines.toList = w.lines.toList ++ cut.map lineText
  unknown : w'.process.exitCode = none → w.process.exitCode = none

theorem Advances.refl (w : Watching) (bytes : List UInt8) : Advances w w bytes bytes where
  reported := ⟨[], rfl, (List.append_nil _).symm⟩
  unknown := id

theorem Advances.trans (h : Advances w w' bytes later) (h' : Advances w' w'' later more) :
    Advances w w'' bytes more where
  reported := by
    obtain ⟨cut, hpieces, hlines⟩ := h.reported
    obtain ⟨cut', hpieces', hlines'⟩ := h'.reported
    refine ⟨cut ++ cut', ?_, ?_⟩
    · rw [hpieces, hpieces', List.append_assoc]
    · rw [hlines', hlines, List.append_assoc, List.map_append]
  unknown := h.unknown ∘ h'.unknown

/-- What is still to be reported was to be reported before. -/
theorem Advances.mem {piece : List UInt8} (h : Advances w w' bytes later)
    (hpiece : piece ∈ outputPieces (w'.line.reverse ++ later)) :
    piece ∈ outputPieces (w.line.reverse ++ bytes) := by
  obtain ⟨cut, hpieces, -⟩ := h.reported
  rw [hpieces]
  exact List.mem_append_right cut hpiece

/-- A watching is broken off while lines of output are reported. -/
structure Breaks (deliver : Nat → Delivery) (output : List UInt8) (ended : ProcessWatch) :
    Prop where
  isOver : ended.process.IsOver
  cause : ∃ cause, ended.ending = .error cause ∧
    ((∃ n, (deliver n).stop = some cause ∧ ended.lines.length = n + 1) ∨
      ∃ fault, cause = .line fault ∧ ∃ piece ∈ outputPieces output, lineLimit < piece.length)

/-- Whoever ends the watching makes sure that the process is over. -/
theorem finish_over (h : w.process.killed = false) (ending : Except WatchBreak WorkResult) :
    (w.finish ending).process.IsOver := by
  show w.process.cleanUp.IsOver
  unfold ChildProcess.cleanUp
  cases hexit : w.process.exitCode with
  | none =>
      refine ⟨?_, fun _ => rfl⟩
      show (w.process.exitCode.or (some killedCode)).isSome = true
      rw [hexit]
      rfl
  | some code => exact ⟨by simp [hexit], by simp [h]⟩

section Reading

theorem Sound.reported (h : w.Sound) (delivery : Delivery) : (w.reported delivery).Sound where
  unbroken := List.not_mem_nil
  counted := rfl
  alive := h.alive
  emptied _ := rfl

/-- A line that is reported is the next piece of output. -/
theorem advances_reported (w : Watching) (delivery : Delivery)
    (hpieces : outputPieces (w.line.reverse ++ bytes) = w.line.reverse :: outputPieces later) :
    Advances w (w.reported delivery) bytes later where
  reported := ⟨[w.line.reverse], hpieces, Array.toList_push⟩
  unknown h := (Option.or_eq_none_iff.1 h).1

/-- The process may exit while a line is reported, and the watching may end. -/
theorem hand_on_cases (deliver : Nat → Delivery) (w : Watching) :
    (∃ cause, (deliver w.lines.size).stop = some cause ∧
      w.handOn deliver = .error ((w.reported (deliver w.lines.size)).breakOff cause)) ∨
    w.handOn deliver = .ok (w.reported (deliver w.lines.size)) := by
  unfold handOn
  dsimp only
  split
  · next cause hstop => exact .inl ⟨cause, hstop, rfl⟩
  · exact .inr rfl

theorem breaks_delivery (h : w.Sound) (hstop : (deliver w.lines.size).stop = some cause) :
    Breaks deliver bytes ((w.reported (deliver w.lines.size)).breakOff cause) where
  isOver := finish_over (w := w.reported (deliver w.lines.size)) h.alive _
  cause := ⟨cause, rfl, .inl ⟨w.lines.size, hstop, Array.size_push _⟩⟩

theorem breaks_line (h : w.Sound) (hlong : lineLimit < w.size) (fault : LineFault) :
    Breaks deliver (w.line.reverse ++ bytes) (w.breakOff (.line fault)) where
  isOver := finish_over h.alive _
  cause := by
    have hlength : lineLimit < w.line.reverse.length := by
      rwa [List.length_reverse, ← h.counted]
    have hne : w.line.reverse ≠ [] := List.ne_nil_of_length_pos (Nat.zero_lt_of_lt hlength)
    obtain ⟨piece, hpiece, hle⟩ :=
      exists_long_piece (mt List.mem_reverse.1 h.unbroken) hne bytes
    exact ⟨_, rfl, .inr ⟨fault, rfl, piece, hpiece, Nat.lt_of_lt_of_le hlength hle⟩⟩

/-- Reading a chunk goes on with what comes behind it, or breaks off. -/
theorem read_spec (deliver : Nat → Delivery) (h : w.Sound) (hopen : w.closed = false)
    (bytes later : List UInt8) :
    (∃ w', w.read deliver bytes = .ok w' ∧ w'.Sound ∧ w'.closed = false ∧
      Advances w w' (bytes ++ later) later) ∨
    ∃ ended, w.read deliver bytes = .error ended ∧
      Breaks deliver (w.line.reverse ++ (bytes ++ later)) ended := by
  induction bytes generalizing w with
  | nil =>
      rw [read]
      split_ifs with hlong
      · exact .inr ⟨_, rfl, breaks_line h hlong _⟩
      · exact .inl ⟨w, rfl, h, hopen, .refl w later⟩
  | cons byte bytes ih =>
      rw [read]
      split_ifs with hbyte hlong
      · exact .inr ⟨_, rfl, breaks_line h hlong _⟩
      · subst hbyte
        have hpieces := outputPieces_break (mt List.mem_reverse.1 h.unbroken) (bytes ++ later)
        have hadvances := advances_reported w (deliver w.lines.size) hpieces
        rcases hand_on_cases deliver w with ⟨cause, hstop, heq⟩ | heq
        · rw [heq]
          exact .inr ⟨_, rfl, breaks_delivery h hstop⟩
        · rw [heq]
          rcases ih (h.reported (deliver w.lines.size)) hopen with
            ⟨w', hread, hsound, hclosed, hmore⟩ | ⟨ended, hread, hbreaks⟩
          · exact .inl ⟨w', hread, hsound, hclosed, hadvances.trans hmore⟩
          · refine .inr ⟨ended, hread, hbreaks.isOver, ?_⟩
            obtain ⟨cause, hending, hcause⟩ := hbreaks.cause
            refine ⟨cause, hending, hcause.imp_right ?_⟩
            rintro ⟨fault, hfault, piece, hpiece, hlong⟩
            exact ⟨fault, hfault, piece, hadvances.mem hpiece, hlong⟩
      · have hnext : Sound { w with line := byte :: w.line, size := w.size + 1 } := {
          unbroken := by simp [h.unbroken, Ne.symm hbyte]
          counted := congrArg (· + 1) h.counted
          alive := h.alive
          emptied := fun hclosed => absurd (hopen.symm.trans hclosed) (by decide) }
        -- the byte moves from what is to be read to the present line
        have hmoved : ∀ more : List UInt8,
            (byte :: w.line).reverse ++ more = w.line.reverse ++ byte :: more := by simp
        rcases ih hnext hopen with ⟨w', hread, hsound, hclosed, hmore⟩ | ⟨ended, hread, hbreaks⟩
        · refine .inl ⟨w', hread, hsound, hclosed, ⟨?_, hmore.unknown⟩⟩
          simpa only [hmoved, List.cons_append] using hmore.reported
        · exact .inr ⟨ended, hread, hmoved _ ▸ hbreaks⟩

end Reading

section Hearing

/-- How a watching ends, for all that was heard of the process. -/
structure Watched (deliver : Nat → Delivery) (w : Watching) (news : List ProcessNews)
    (ended : ProcessWatch) : Prop where
  isOver : ended.process.IsOver
  killed : ended.process.killed = true → ∃ cause, ended.ending = .error cause
  cut_short : ∀ cause, ended.ending = .error cause →
    CutShort deliver w news ended.lines.length cause
  returned : ∀ result, ended.ending = .ok result → ∃ code, ended.process.exitCode = some code ∧
    result = exitResult ended.lines code ∧
    ended.lines = w.lines.toList ++
      (outputPieces (w.line.reverse ++ heardOutput w.closed news)).map lineText

/-- What goes on in a step: lines are reported, and what the news say is taken note of. -/
structure Follows (w w' : Watching) (news : ProcessNews) (rest : List ProcessNews) : Prop where
  sound : w'.Sound
  waiting : w'.closed = true → w'.process.exitCode = none
  advances : Advances w w' (heardOutput w.closed (news :: rest)) (heardOutput w'.closed rest)
  opened : w'.closed = false → w.closed = false ∧ news ≠ .closed
  running : w'.process.exitCode = none → ∀ code, news ≠ .exited code

/-- A step goes on, or ends the watching. -/
inductive Proceeds (deliver : Nat → Delivery) (w : Watching) (news : ProcessNews)
    (rest : List ProcessNews) : Except ProcessWatch Watching → Prop
  | goesOn {next : Watching} (h : Follows w next news rest) : Proceeds deliver w news rest (.ok next)
  | ends {ended : ProcessWatch} (h : Watched deliver w (news :: rest) ended) :
      Proceeds deliver w news rest (.error ended)

theorem Follows.cut_short (h : Follows w w' news rest) {n : Nat}
    (hcut : CutShort deliver w' rest n cause) : CutShort deliver w (news :: rest) n cause := by
  cases hcut with
  | broken hmem => exact .broken (List.mem_cons_of_mem _ hmem)
  | delivery hstop hlast => exact .delivery hstop hlast
  | line hpiece hlong => exact .line (h.advances.mem hpiece) hlong
  | unfinished hmore =>
      refine .unfinished (hmore.imp ?_ ?_)
      · rintro ⟨hopen, hnot⟩
        obtain ⟨hbefore, hne⟩ := h.opened hopen
        exact ⟨hbefore, by simp [hne.symm, hnot]⟩
      · rintro ⟨hnone, hnot⟩
        refine ⟨h.advances.unknown hnone, fun code hmem => ?_⟩
        rcases List.mem_cons.1 hmem with heq | hmem
        · exact h.running hnone code heq.symm
        · exact hnot code hmem

/-- A step takes back to the state before it how a watching ends. -/
theorem Follows.watched (h : Follows w w' news rest) (hwatched : Watched deliver w' rest ended) :
    Watched deliver w (news :: rest) ended where
  isOver := hwatched.isOver
  killed := hwatched.killed
  cut_short cause hending := h.cut_short (hwatched.cut_short cause hending)
  returned := by
    intro result hending
    obtain ⟨code, hexit, hresult, hlines⟩ := hwatched.returned result hending
    obtain ⟨cut, hpieces, hreported⟩ := h.advances.reported
    refine ⟨code, hexit, hresult, ?_⟩
    rw [hlines, hreported, hpieces, List.map_append, List.append_assoc]

/-- Once the output has ended the exit is waited for. -/
theorem settle_spec (h : w.Sound) :
    w.settle = .ok w ∧ (w.closed = true → w.process.exitCode = none) ∨
      ∃ ended code, w.settle = .error ended ∧ w.closed = true ∧ ended.process.IsOver ∧
        ended.process.killed = false ∧ ended.process.exitCode = some code ∧
        ended.lines = w.lines.toList ∧ ended.ending = .ok (exitResult ended.lines code) := by
  unfold settle
  split
  · next code hclosed hexit =>
      have hawaited : (w.process.await code).exitCode = some code := by
        simp [ChildProcess.await, ChildProcess.learn, hexit]
      have hkept : (w.process.await code).cleanUp = w.process.await code := by
        simp [ChildProcess.cleanUp, hawaited]
      refine .inr ⟨_, code, rfl, hclosed, ?_, ?_, ?_, rfl, rfl⟩
      · exact finish_over (w := { w with process := w.process.await code }) h.alive _
      · show (w.process.await code).cleanUp.killed = false
        rw [hkept]
        exact h.alive
      · show (w.process.await code).cleanUp.exitCode = some code
        rw [hkept, hawaited]
  · next hcases =>
      refine .inl ⟨rfl, fun hclosed => ?_⟩
      cases hexit : w.process.exitCode with
      | none => rfl
      | some code => exact (hcases code hclosed hexit).elim

/-- What is settled after lines were reported comes to the result of all lines, or goes on. -/
theorem settle_proceeds (h : w'.Sound)
    (hadvances : Advances w w' (heardOutput w.closed (news :: rest)) (heardOutput w'.closed rest))
    (hopened : w'.closed = false → w.closed = false ∧ news ≠ .closed)
    (hrunning : w'.process.exitCode = none → ∀ code, news ≠ .exited code) :
    Proceeds deliver w news rest w'.settle := by
  rcases settle_spec h with ⟨hsettle, hwaiting⟩ |
    ⟨ended, code, hsettle, hclosed, hover, halive, hexit, hlines, hending⟩
  · rw [hsettle]
    exact .goesOn ⟨h, hwaiting, hadvances, hopened, hrunning⟩
  · rw [hsettle]
    refine .ends ⟨hover, ?_, ?_, ?_⟩
    · intro hkilled
      rw [halive] at hkilled
      cases hkilled
    · intro cause hcause
      rw [hending] at hcause
      cases hcause
    · intro result hresult
      rw [hending] at hresult
      obtain ⟨cut, hpieces, hreported⟩ := hadvances.reported
      refine ⟨code, hexit, (Except.ok.inj hresult).symm, ?_⟩
      -- with the output at its end, nothing is left to be reported
      rw [hclosed, h.emptied hclosed] at hpieces
      have hnone : outputPieces [] = [] := rfl
      rw [hlines, hreported, hpieces, List.reverse_nil, List.nil_append, heardOutput_closed, hnone,
        List.append_nil]

/-- News that break the watching off. -/
theorem watched_broken (h : w.Sound) {n : List ProcessNews}
    (hcut : CutShort deliver w n (w.breakOff cause).lines.length cause) :
    Watched deliver w n (w.breakOff cause) where
  isOver := finish_over h.alive _
  killed _ := ⟨cause, rfl⟩
  cut_short other hother := by
    cases hother
    exact hcut
  returned result hending := by cases hending

theorem Breaks.watched {n : List ProcessNews}
    (h : Breaks deliver (w.line.reverse ++ heardOutput w.closed n) ended) :
    Watched deliver w n ended where
  isOver := h.isOver
  killed _ := h.cause.imp fun _ hcause => hcause.1
  cut_short cause hending := by
    obtain ⟨other, hother, hwhy⟩ := h.cause
    obtain rfl := Except.error.inj (hother.symm.trans hending)
    rcases hwhy with ⟨n, hstop, hlast⟩ | ⟨fault, rfl, piece, hpiece, hlong⟩
    · exact .delivery hstop hlast
    · exact .line hpiece hlong
  returned result hending := by
    obtain ⟨cause, hcause, -⟩ := h.cause
    rw [hcause] at hending
    cases hending

/-- Output that arrives is read, unless it has ended. -/
theorem hear_output (deliver : Nat → Delivery) (h : w.Sound)
    (hwaiting : w.closed = true → w.process.exitCode = none) (chunk : List UInt8) :
    Proceeds deliver w (.output chunk) rest (w.hear deliver (.output chunk)) := by
  rw [hear]
  cases hopen : w.closed with
  | true =>
      refine .goesOn ⟨h, hwaiting, ?_, fun hfalse => ?_, fun _ _ heq => by cases heq⟩
      · rw [hopen, heardOutput_closed, heardOutput_closed]
        exact .refl w []
      · rw [hopen] at hfalse
        cases hfalse
  | false =>
      rw [if_neg Bool.false_ne_true]
      rcases read_spec deliver h hopen chunk (heardOutput false rest) with
        ⟨w', hread, hsound, hclosed, hadvances⟩ | ⟨ended, hread, hbreaks⟩
      · rw [hread]
        refine .goesOn ⟨hsound, fun hfalse => ?_, ?_, fun _ => ⟨hopen, by simp⟩,
          fun _ _ heq => by cases heq⟩
        · rw [hclosed] at hfalse
          cases hfalse
        · rw [hopen, hclosed]
          exact hadvances
      · rw [hread]
        refine .ends (Breaks.watched ?_)
        rw [hopen]
        exact hbreaks

/-- At the end of the output the present line is reported, if there is anything of it. -/
theorem hear_closed (deliver : Nat → Delivery) (h : w.Sound) :
    Proceeds deliver w .closed rest (w.hear deliver .closed) := by
  have hnone : heardOutput w.closed (.closed :: rest) = [] := by
    cases w.closed <;> simp [heardOutput]
  rw [hear]
  by_cases hsize : w.size = 0
  · have hline : w.line = [] := List.eq_nil_of_length_eq_zero (h.counted ▸ hsize)
    have hsound : Sound { w with closed := true } :=
      ⟨h.unbroken, h.counted, h.alive, fun _ => hline⟩
    rw [if_pos hsize]
    refine settle_proceeds hsound ?_ (fun hfalse => by cases hfalse) fun _ _ heq => by cases heq
    rw [hnone, heardOutput_closed]
    exact ⟨⟨[], rfl, (List.append_nil _).symm⟩, id⟩
  · have hpieces : outputPieces (w.line.reverse ++ []) = w.line.reverse :: outputPieces [] := by
      have hne : w.line.reverse ≠ [] := by
        intro hline
        exact hsize (by simp [h.counted, List.reverse_eq_nil_iff.1 hline])
      rw [List.append_nil, outputPieces_line (mt List.mem_reverse.1 h.unbroken), if_neg hne]
      rfl
    have hadvances := advances_reported w (deliver w.lines.size) hpieces
    rw [if_neg hsize]
    rcases hand_on_cases deliver w with ⟨cause, hstop, heq⟩ | heq
    · rw [heq]
      exact .ends (breaks_delivery h hstop).watched
    · have hreported := h.reported (deliver w.lines.size)
      have hsound : Sound { w.reported (deliver w.lines.size) with closed := true } :=
        ⟨hreported.unbroken, hreported.counted, hreported.alive, fun _ => rfl⟩
      rw [heq]
      refine settle_proceeds hsound ?_ (fun hfalse => by cases hfalse) fun _ _ heq => by cases heq
      rw [hnone, heardOutput_closed]
      exact ⟨hadvances.reported, hadvances.unknown⟩

/-- The exit is taken note of. -/
theorem hear_exited (deliver : Nat → Delivery) (h : w.Sound) (code : Int) :
    Proceeds deliver w (.exited code) rest (w.hear deliver (.exited code)) := by
  have hsame : heardOutput w.closed (.exited code :: rest) = heardOutput w.closed rest := by
    cases w.closed <;> simp [heardOutput]
  have hsound : Sound { w with process := w.process.learn (some code) } :=
    ⟨h.unbroken, h.counted, h.alive, h.emptied⟩
  rw [hear]
  refine settle_proceeds hsound ?_ (fun hfalse => ⟨hfalse, by simp⟩) fun hnone => ?_
  · rw [hsame]
    refine ⟨⟨[], rfl, (List.append_nil _).symm⟩, fun hnone => ?_⟩
    exact (Option.or_eq_none_iff.1 hnone).1
  · cases (Option.or_eq_none_iff.1 hnone).2

/-- Whatever is heard, the watching goes on as it was, or ends and leaves no process behind. -/
theorem hear_proceeds (deliver : Nat → Delivery) (h : w.Sound)
    (hwaiting : w.closed = true → w.process.exitCode = none) (news : ProcessNews)
    (rest : List ProcessNews) : Proceeds deliver w news rest (w.hear deliver news) := by
  cases news with
  | output chunk => exact hear_output deliver h hwaiting chunk
  | closed => exact hear_closed deliver h
  | exited code => exact hear_exited deliver h code
  | broken cause => exact .ends (watched_broken h (.broken List.mem_cons_self))

/-- However a process is watched, it does not outlive the watching. -/
theorem run_watched (deliver : Nat → Delivery) (h : w.Sound)
    (hwaiting : w.closed = true → w.process.exitCode = none) (all : List ProcessNews) :
    Watched deliver w all (w.run deliver all) := by
  induction all generalizing w with
  | nil =>
      rw [run]
      refine watched_broken h (.unfinished ?_)
      cases hclosed : w.closed with
      | false => exact .inl ⟨rfl, List.not_mem_nil⟩
      | true => exact .inr ⟨hwaiting hclosed, fun _ => List.not_mem_nil⟩
  | cons news rest ih =>
      have hproceeds := hear_proceeds deliver h hwaiting news rest
      rw [run]
      generalize w.hear deliver news = outcome at hproceeds
      cases hproceeds with
      | goesOn hfollows => exact hfollows.watched (ih hfollows.sound hfollows.waiting)
      | ends hwatched => exact hwatched

end Hearing



end Watching

/-- A watching begins with a process that runs and nothing that was read. -/
theorem Watching.sound_start : ({} : Watching).Sound :=
  ⟨List.not_mem_nil, rfl, rfl, fun _ => rfl⟩

/-- The output of a result are the lines that were reported. -/
theorem run_output {deliver : Nat → Delivery} {news : List ProcessNews} {result : WorkResult}
    (h : (Watching.run deliver {} news).ending = .ok result) :
    result.output = String.intercalate "\n" (Watching.run deliver {} news).lines := by
  obtain ⟨code, -, hresult, -⟩ :=
    (Watching.run_watched deliver Watching.sound_start (by simp) news).returned result h
  rw [hresult]
  rfl

end BuildGraph
