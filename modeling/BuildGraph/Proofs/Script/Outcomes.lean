import BuildGraph.Proofs.Script.Bodies

/-!
# What the block of any task is read to

A script does not give every integer back: a negative one is not read as a number and passed over,
and one with too many digits stops the reading. `Outcome` says what reading a statement does to a
block when it may stop, and `Outcomes` says it of lines. `outcomes_body` puts together what the
lines of any task come to.
-/

namespace BuildGraph.Script

open Recognizer BuildGraph.Number

variable {signs inner more : List Sign} {lines moreLines : List String} {line property : String}
  {act next : Block → Except IntegerStop Block} {change : Block → Block}

namespace Recognizer

variable {α β : Type} {r : Recognizer α} {f : α → Recognizer β} {a : α} {s : Sign}
  {opener closer : String} {cause : Stop}

/-- The recognizer stops at tokens that begin with the signs. -/
def Halts (r : Recognizer α) (signs : List Sign) (cause : Stop) : Prop :=
  ∀ tokens rest pos, tokens.map Token.sign = signs → r ⟨tokens ++ rest, pos⟩ = .stopped cause

theorem Halts.bind (h : Halts r signs cause) : Halts (r >>= f) signs cause := by
  intro tokens rest pos htokens
  change andThen r f _ = _
  rw [andThen, h tokens rest pos htokens]

/-- What stops behind signs that are read stops. -/
theorem Reads.halts (hr : Reads r signs a) (hf : Halts (f a) more cause) :
    Halts (r >>= f) (signs ++ more) cause := by
  intro tokens rest pos htokens
  obtain ⟨front, back, rfl, hfront, hback⟩ := List.map_eq_append_iff.1 htokens
  have hfirst := hr front (back ++ rest) pos hfront
  have hsecond := hf back rest (pos + front.length) hback
  change andThen r f _ = _
  rw [List.append_assoc, andThen, hfirst]
  exact hsecond

theorem Reads.halts_step (hr : Reads r [s] a) (hf : Halts (f a) more cause) :
    Halts (r >>= f) (s :: more) cause :=
  hr.halts hf

/-- What stops at the tokens from another place stops. -/
theorem Halts.within {tokens : List Token} (h : Halts r inner cause)
    (htokens : tokens.map Token.sign = inner) : Halts (within r tokens) signs cause := by
  intro front rest pos _
  have hstop := h tokens [] 0 htokens
  rw [List.append_nil] at hstop
  rw [Recognizer.within, hstop]

/-- What stops at the inside of a group stops. -/
theorem halts_group_bind {f : List Token → Recognizer β} (hpair : closerOf? opener = some closer)
    (hbalanced : Balanced inner)
    (hf : ∀ inside : List Token, inside.map Token.sign = inner → Halts (f inside) more cause) :
    Halts (group opener >>= f) (.op opener :: (inner ++ .op closer :: more)) cause := by
  intro tokens rest pos htokens
  obtain ⟨t, inside, u, after, rfl, ht, hinside, hu, hafter⟩ := exists_group_tokens htokens
  have hgroup := @group_eq _ _ _ (after ++ rest) _ _ _ hpair hbalanced ht hinside hu pos
  have hnext := hf inside hinside after rest (pos + (inside.length + 2)) hafter
  change andThen (group opener) f _ = _
  rw [List.cons_append, List.append_assoc, List.cons_append, andThen, hgroup]
  exact hnext

end Recognizer

section Statements

/-- A reading that stops at the statement is the last one. -/
theorem readStatement_of_halts {reading : Recognizer Effect} {readings : List (Recognizer Effect)}
    {tokens : List Token} {stop : IntegerStop} (h : Halts reading signs (.integer stop))
    (htokens : tokens.map Token.sign = signs) (b : Block) :
    readStatement tokens (reading :: readings) b = .error stop := by
  have hstop := h tokens [] 0 htokens
  rw [List.append_nil] at hstop
  rw [readStatement, hstop]

end Statements

section Integers

/-- What is read of an integer that stands in a script: nothing of a negative one, and one with too
many digits stops the reading. -/
def readBack : Option Int → Except IntegerStop (Option Int)
  | some (.ofNat n) => (requireInteger (toString n)).map some
  | _ => .ok none

@[simp] theorem readBack_none : readBack none = .ok none := rfl

@[simp] theorem readBack_negative (n : Nat) : readBack (some (.negSucc n)) = .ok none := rfl

theorem readBack_of_ok {n : Nat} {k : Int} (h : requireInteger (toString n) = .ok k) :
    readBack (some (.ofNat n)) = .ok (some k) := by
  rw [readBack, h]
  rfl

theorem readBack_of_error {n : Nat} {stop : IntegerStop}
    (h : requireInteger (toString n) = .error stop) :
    readBack (some (.ofNat n)) = .error stop := by
  rw [readBack, h]
  rfl

/-- The signs of an integer. -/
def integerSigns : Int → List Sign
  | .ofNat n => [.number (toString n)]
  | .negSucc n => [.op "-", .number (toString (n + 1))]

theorem integerSigns_ne_nil (k : Int) : integerSigns k ≠ [] := by
  cases k <;> simp [integerSigns]

theorem inline_integer (k : Int) : Inline (integerSigns k) := by
  cases k with
  | ofNat n => exact .plain rfl .nil
  | negSucc n => exact .plain rfl (.plain rfl .nil)

theorem integer_ends (k : Int) : ∀ s ∈ (integerSigns k).getLast?, s.carriesOn = false := by
  cases k <;> simp [integerSigns, Sign.carriesOn, Sign.number]

theorem written_integer (k : Int) : Written (toString k) (integerSigns k) := by
  cases k with
  | ofNat n => exact written_number n
  | negSucc n =>
      have hminus : Spelled "-" [.operator "-"] :=
        spelled_operator (by simp [operators_eq]) (by simp)
      exact (hminus.append (spelled_number (n + 1)) (by simp [Piece.joins])).written

/-- A negative integer is not read as a number. -/
theorem misses_integer (n : Nat) : Misses integer (integerSigns (.negSucc n)) := by
  have hnumber : Misses number [.op "-"] := misses_token rfl fun t ht => by
    have hkind : t.kind = .op := congrArg Prod.fst ht
    simp [hkind]
  exact Misses.bind (hnumber.cons _)

theorem reads_integer_ofNat {n : Nat} {k : Int} (h : requireInteger (toString n) = .ok k) :
    Reads integer (integerSigns (.ofNat n)) k :=
  reads_integer_of (by rw [integerText_toString, isDigitText_toString])
    (by rw [integerText_toString, h])

/-- An integer with too many digits stops the reading. -/
theorem halts_integer {n : Nat} {stop : IntegerStop}
    (h : requireInteger (toString n) = .error stop) :
    Halts integer (integerSigns (.ofNat n)) (.integer stop) := by
  intro tokens rest pos htokens
  have hnumber := reads_number tokens rest pos htokens
  change andThen number _ _ = _
  simp only [andThen, hnumber, integerText_toString, isDigitText_toString, h, if_true]

/-- An assignment that sets nothing is read as nothing else. -/
theorem readStatement_of_misses_assignment {value : List Sign}
    (h : Misses assignment (assigned property value)) (hguard : property ≠ "onlyIf")
    (hoptions : property ≠ "options") {text : String} {declared : List String}
    {tokens : List Token} (htokens : tokens.map Token.sign = assigned property value) (b : Block) :
    readStatement tokens (statementReadings text declared) b = .ok (b, []) := by
  have hsetter : Misses setterCall (assigned property value) :=
    reads_anyIdent.misses_step (Misses.bind ((misses_op rfl (by decide)).cons _))
  have hmethod : Misses (methodCall text) (assigned property value) :=
    reads_anyIdent.misses_step (Misses.bind ((misses_group rfl (by decide)).cons _))
  have hguarded : Misses (guardStatement text declared) (assigned property value) :=
    Misses.bind ((misses_ident rfl (by simpa [Sign.ident] using hguard)).cons _)
  have hoptional : Misses optionsStatement (assigned property value) :=
    Misses.bind ((misses_ident rfl (by simpa [Sign.ident] using hoptions)).cons _)
  rw [statementReadings, readStatement_of_misses h htokens,
    readStatement_of_misses hsetter htokens, readStatement_of_misses hmethod htokens,
    readStatement_of_misses hguarded htokens, readStatement_of_misses hoptional htokens]
  rfl

/-- Setting a property to an integer. -/
theorem outcome_integer {change : Option Int → Block → Block} (hnone : change none = id)
    (hproperty : property ∉ structuredProperties) (hguard : property ≠ "onlyIf")
    (hoptions : property ≠ "options") (htext : textProperty? property = none)
    (hboolean : booleanProperty? property = none)
    (h : integerProperty? property = some fun v => changing (change (some v))) (k : Int) :
    Outcome (assigned property (integerSigns k))
      fun b => (readBack (some k)).map fun o => change o b where
  statement := isStatement_assigned property (inline_integer k) (integerSigns_ne_nil k)
    (integer_ends k)
  read := fun text declared tokens b htokens => by
    have hvalue : propertyValue property =
        integer >>= fun v => pure (changing (change (some v))) := by
      rw [propertyValue_eq hproperty, htext, hboolean, h]
    cases k with
    | negSucc n =>
        have hmiss : Misses assignment (assigned property (integerSigns (.negSucc n))) := by
          refine reads_anyIdent.misses_step (reads_op.misses_step ?_)
          rw [hvalue]
          exact (misses_integer n).bind
        rw [readStatement_of_misses_assignment hmiss hguard hoptions htokens]
        simp [Except.map, hnone]
    | ofNat n =>
        cases hread : requireInteger (toString n) with
        | ok m =>
            have hset : Reads assignment (assigned property (integerSigns (.ofNat n)))
                (changing (change (some m))) := by
              refine reads_anyIdent.step (reads_op.step ?_)
              rw [hvalue]
              exact (reads_integer_ofNat hread).last (reads_pure _)
            rw [statementReadings, readStatement_of_readsAll (.of_reads hset) htokens,
              readBack_of_ok hread]
            rfl
        | error stop =>
            have hhalt : Halts assignment (assigned property (integerSigns (.ofNat n)))
                (.integer stop) := by
              refine reads_anyIdent.halts_step (reads_op.halts_step ?_)
              rw [hvalue]
              exact (halts_integer hread).bind
            rw [statementReadings, readStatement_of_halts hhalt htokens, readBack_of_error hread]
            rfl

end Integers

section Durations

/-- The signs of a limit of minutes that may be any integer. -/
def limitSigns (k : Int) : List Sign :=
  .ident "timeout" :: .op "." :: call "set"
    (.ident "Duration" :: .op "." :: call "ofMinutes" (integerSigns k))

theorem duration_signs_balanced (k : Int) :
    Balanced (.ident "Duration" :: .op "." :: call "ofMinutes" (integerSigns k)) :=
  .plain rfl (.plain rfl (isStatement_call _ (inline_integer k).balanced).inline.balanced)

theorem isStatement_limit (k : Int) : IsStatement (limitSigns k) where
  inline := .plain rfl (.plain rfl (isStatement_call _ (duration_signs_balanced k)).inline)
  starts := ⟨_, _, rfl⟩
  ends := ends_cons (ends_cons (call_ends (duration_signs_balanced k)) (by simp [call])) (by simp)

theorem reads_durationPath :
    Reads (path ["Duration", "ofMinutes"]) [.ident "Duration", .op ".", .ident "ofMinutes"] () :=
  reads_ident.step (reads_op.step reads_ident)

/-- The limit of minutes is set by a call with a duration, so what the duration comes to decides. -/
theorem misses_setterCall_limit {k : Int} (h : Misses integer (integerSigns k)) :
    Misses setterCall (limitSigns k) := by
  have hduration : Misses durationMinutes (.ident "Duration" :: .op "." ::
      call "ofMinutes" (integerSigns k)) :=
    reads_durationPath.misses (misses_group_bind rfl (inline_integer k).balanced
      fun inside hinside => h.bind.within hinside)
  refine reads_anyIdent.misses_step (reads_op.misses_step (reads_ident.misses_step ?_))
  refine misses_group_bind rfl (duration_signs_balanced k) fun inside hinside => ?_
  rw [if_pos rfl]
  exact (hduration.bind.within hinside).bind

theorem reads_setterCall_limit {k m : Int} (h : Reads integer (integerSigns k) m) :
    Reads setterCall (limitSigns k)
      (changing fun b => { b with timeoutMinutes := some m }) := by
  have hduration : Reads durationMinutes (.ident "Duration" :: .op "." ::
      call "ofMinutes" (integerSigns k)) m :=
    reads_durationPath.bind (reads_group_bind rfl (inline_integer k).balanced
      fun inside hinside => (h.last_all readsAll_finished).within hinside)
  refine reads_anyIdent.step (reads_op.step (reads_ident.step ?_))
  refine reads_group_bind rfl (duration_signs_balanced k) fun inside hinside => ?_
  rw [if_pos rfl]
  exact ((hduration.last_all readsAll_finished).within hinside).pass (reads_pure _)

theorem halts_setterCall_limit {k : Int} {cause : Stop} (h : Halts integer (integerSigns k) cause) :
    Halts setterCall (limitSigns k) cause := by
  have hduration : Halts durationMinutes (.ident "Duration" :: .op "." ::
      call "ofMinutes" (integerSigns k)) cause :=
    reads_durationPath.halts (halts_group_bind rfl (inline_integer k).balanced
      fun inside hinside => h.bind.within hinside)
  refine reads_anyIdent.halts_step (reads_op.halts_step (reads_ident.halts_step ?_))
  refine halts_group_bind rfl (duration_signs_balanced k) fun inside hinside => ?_
  rw [if_pos rfl]
  exact (hduration.bind.within hinside).bind

/-- Setting the limit of minutes. -/
theorem outcome_limit (k : Int) : Outcome (limitSigns k)
    fun b => (readBack (some k)).map fun o =>
      { b with timeoutMinutes := o.or b.timeoutMinutes } where
  statement := isStatement_limit k
  read := fun text declared tokens b htokens => by
    have hassignment : Misses assignment (limitSigns k) :=
      reads_anyIdent.misses_step (Misses.bind ((misses_op rfl (by decide)).cons _))
    rw [statementReadings, readStatement_of_misses hassignment htokens]
    cases k with
    | negSucc n =>
        have hmethod : Misses (methodCall text) (limitSigns (.negSucc n)) :=
          reads_anyIdent.misses_step (Misses.bind ((misses_group rfl (by decide)).cons _))
        have hguarded : Misses (guardStatement text declared) (limitSigns (.negSucc n)) :=
          Misses.bind ((misses_ident rfl (by decide)).cons _)
        have hoptional : Misses optionsStatement (limitSigns (.negSucc n)) :=
          Misses.bind ((misses_ident rfl (by decide)).cons _)
        rw [readStatement_of_misses (misses_setterCall_limit (misses_integer n)) htokens,
          readStatement_of_misses hmethod htokens, readStatement_of_misses hguarded htokens,
          readStatement_of_misses hoptional htokens]
        rfl
    | ofNat n =>
        cases hread : requireInteger (toString n) with
        | ok m =>
            have hset := reads_setterCall_limit (reads_integer_ofNat hread)
            rw [readStatement_of_readsAll (.of_reads hset) htokens, readBack_of_ok hread]
            rfl
        | error stop =>
            have hhalt := halts_setterCall_limit (halts_integer hread)
            rw [readStatement_of_halts hhalt htokens, readBack_of_error hread]
            rfl

end Durations

section Bodies

variable {g : Graph} {registered : List String} {options : ExportOptions} {n : Node}

theorem outcomes_integerLine {change : Option Int → Block → Block} (hnone : change none = id)
    (hnamed : isIdentifier property.toList = true)
    (hproperty : property ∉ structuredProperties) (hguard : property ≠ "onlyIf")
    (hoptions : property ≠ "options") (htext : textProperty? property = none)
    (hboolean : booleanProperty? property = none)
    (h : integerProperty? property = some fun v => changing (change (some v)))
    (value : Option Int) :
    Outcomes (integerLine property value) fun b => (readBack value).map fun o => change o b := by
  cases value with
  | none =>
      simp only [readBack_none, Except.map, hnone]
      exact .nil
  | some k =>
      exact .of_line ((written_integer k).assigned property hnamed)
        (outcome_integer hnone hproperty hguard hoptions htext hboolean h k)

theorem outcomes_maxParallelForks (value : Option Int) :
    Outcomes (integerLine "maxParallelForks" value) fun b => (readBack value).map fun o =>
      onSettings (fun s => { s with maxParallelForks := o.or s.maxParallelForks }) b :=
  outcomes_integerLine rfl (by decide) (by decide) (by decide) (by decide) (by decide) (by decide)
    rfl value

theorem outcomes_forkEvery (value : Option Int) :
    Outcomes (integerLine "forkEvery" value) fun b => (readBack value).map fun o =>
      onSettings (fun s => { s with forkEvery := o.or s.forkEvery }) b :=
  outcomes_integerLine rfl (by decide) (by decide) (by decide) (by decide) (by decide) (by decide)
    rfl value

theorem outcomes_minutes (minutes : Option Int) :
    Outcomes (minutesLine minutes) fun b => (readBack (keptMinutes minutes)).map fun o =>
      { b with timeoutMinutes := o.or b.timeoutMinutes } := by
  cases minutes with
  | none => exact .nil
  | some k =>
      by_cases hzero : k = 0
      · subst hzero
        exact .nil
      · have hkept : keptMinutes (some k) = some k := by simp [keptMinutes, hzero]
        have htimeout : Expression "timeout" [.ident "timeout"] := expression_word (by decide)
        have hduration : Expression "Duration" [.ident "Duration"] := expression_word (by decide)
        have hminutes : Expression ("ofMinutes" ++ "(" ++ toString k ++ ")")
            (call "ofMinutes" (integerSigns k)) :=
          expression_call (by decide) (written_integer k)
        have hset := expression_call (show isIdentifier "set".toList = true by decide)
          (hduration.append "." rfl hminutes).written
        rw [hkept, minutesLine, if_neg hzero]
        exact .of_line ((htimeout.append "." rfl hset).written.of_eq (by simp) rfl)
          (outcome_limit k)

/-- The settings that the lines of a step are read to. -/
def readSettings : Step → Except IntegerStop Settings
  | .test c => do
    let forks ← readBack c.maxParallelForks
    let every ← readBack c.forkEvery
    return { stepSettings (.test c) with maxParallelForks := forks, forkEvery := every }
  | step => .ok (stepSettings step)

theorem outcomes_test (c : TestConfig) : ∃ act, Outcomes (testLines c) act ∧
    ∀ b : Block, b.settings = {} →
      act b = (readSettings (.test c)).map fun s => { b with settings := s } := by
  have hfail := readable_booleanProperty "failFast" true
    (fun p => onSettings fun s => { s with failFast := switchTo true p s.failFast })
    rfl rfl (by decide) (by decide) (by decide) rfl c.failFast
  have hignore := readable_booleanProperty "ignoreFailures" true
    (fun p => onSettings fun s => { s with ignoreFailures := switchTo true p s.ignoreFailures })
    rfl rfl (by decide) (by decide) (by decide) rfl c.ignoreFailures
  have hfront := (readable_eachCall listSetting_include c.includes).append
    (readable_eachCall listSetting_exclude c.excludes)
  refine ⟨_, ((((hfront.outcomes.append (outcomes_maxParallelForks c.maxParallelForks)).append
    (outcomes_forkEvery c.forkEvery)).append hfail.outcomes).append hignore.outcomes).append
    (readable_callLine listSetting_jvmArgs c.jvmArgs).outcomes, fun b hb => ?_⟩
  simp only [readSettings]
  cases readBack c.maxParallelForks with
  | error stop => rfl
  | ok forks =>
      cases readBack c.forkEvery with
      | error stop => rfl
      | ok every =>
          simp [onSettings, hb, stepSettings, Except.map, bind, Except.bind, pure, Except.pure]

/-- The lines of a step set the settings that they are read to, or stop the reading. -/
theorem outcomes_step (comments : Bool) (step : Step) :
    ∃ act, Outcomes (stepLines comments step) act ∧ ∀ b : Block, b.settings = {} →
      act b = (readSettings step).map fun s => { b with settings := s } := by
  have hother : ∀ step, (∀ c, step ≠ .test c) → readSettings step = .ok (stepSettings step) →
      ∃ act, Outcomes (stepLines comments step) act ∧ ∀ b : Block, b.settings = {} →
        act b = (readSettings step).map fun s => { b with settings := s } := by
    intro step htest hread
    obtain ⟨change, hsettings, hchange⟩ := readable_step comments step htest
    refine ⟨_, hsettings.outcomes, fun b hb => ?_⟩
    rw [hread, onSettings, hb, hchange]
    rfl
  cases step with
  | test c => exact outcomes_test c
  | _ => exact hother _ (by simp) rfl

/-- What the block of a task is read to. -/
def readTaskBlock (g : Graph) (registered : List String) (options : ExportOptions) (n : Node)
    (line : Nat) : Except IntegerStop Block := do
  let settings ← readSettings n.step
  let timeoutMinutes ← readBack (keptMinutes n.timeoutMinutes)
  recoverRequest { readBlockOf g registered options n line with settings, timeoutMinutes }

/-- The lines in the block of any task are read as what they come to. -/
theorem outcomes_body (hrelations : ∀ r ∈ writtenRelations g registered n, Referable r.2) :
    ∃ act, Outcomes (bodyLines g registered options n) act ∧ ∀ line,
      (act { name := n.identifier, kind := kindOfClass n.kind.scriptClass?, line } >>=
        recoverRequest) = readTaskBlock g registered options n line := by
  have hgroup := readable_textProperty "group" (fun o b => { b with group := o.or b.group })
    rfl (by decide) (by decide) rfl n.group
  have hdescription := readable_textProperty "description"
    (fun o b => { b with description := o.or b.description }) rfl (by decide) (by decide) rfl
    n.description
  have henabled := readable_booleanProperty "enabled" false
    (fun p b => { b with enabled := if p then false else b.enabled }) rfl rfl (by decide)
    (by decide) (by decide) rfl (!n.enabled)
  have hrelated := readable_relations hrelations
  rw [← relationLines_eq] at hrelated
  obtain ⟨act, hstep, hact⟩ := outcomes_step options.includeComments n.step
  have hcondition := readable_condition g.vars options.variableFormat n.condition
  have hfront := ((hgroup.append hdescription).append henabled).append hrelated
  refine ⟨_, ((hfront.outcomes.append hstep).append hcondition.outcomes).append
    (outcomes_minutes n.timeoutMinutes), fun line => ?_⟩
  simp only [Function.comp_apply, bind, Except.bind, Option.or_none, List.nil_append]
  rw [hact _ rfl, readTaskBlock]
  cases readSettings n.step with
  | error stop => rfl
  | ok settings =>
      simp only [Except.map, bind, Except.bind, Option.or_none]
      cases readBack (keptMinutes n.timeoutMinutes) with
      | error stop => rfl
      | ok minutes =>
          simp only [readBlockOf]
          cases n.enabled <;> rfl

end Bodies

end BuildGraph.Script
