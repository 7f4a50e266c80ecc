import BuildGraph.Proofs.Script.Body
import BuildGraph.Proofs.Script.Conditions

/-!
# Guards that are read back

The statement that is written for a guard is understood: reading it gives the block the guard that
the script keeps, with its conditions in order. The operator between conditions is found because no
condition holds it outside all parentheses, and the negation of a whole guard is told from a negated
condition by the parentheses that enclose everything behind it.
-/

namespace BuildGraph.Script

open Recognizer

variable {signs more rest inner : List Sign} {tokens : List Token} {vars : List Variable}
  {format : VariableFormat} {declared : List String} {text moreText method : String}

section Signs

/-- The operator that joins conditions. -/
def joint : Logic → String
  | .all => "&&"
  | .any => "||"

/-- The signs of conditions joined by an operator. -/
def joinedSigns (logic : Logic) (parts : List (List Sign)) : List Sign :=
  match parts with
  | [part] => part
  | _ => List.intercalate [.op (joint logic)] (parts.map parens)

/-- The signs of the expression of a guard. -/
def guardSigns (vars : List Variable) (format : VariableFormat) (g : Guard) : List Sign :=
  let joined := joinedSigns g.logic (g.conditions.map (conditionSigns vars format))
  match g.mode with
  | .onlyIf => joined
  | .skipIf => .op "!" :: parens joined

/-- The guard that a script keeps: how a single condition is joined is not written. -/
def keptGuard (vars : List Variable) (format : VariableFormat) (g : Guard) : Guard where
  mode := g.mode
  conditions := g.conditions.map (keptCondition vars format)
  logic := if g.conditions.length = 1 then .all else g.logic

end Signs

section Bareness

/-- No parentheses enclose a group and what follows it. -/
theorem bare_parens_append (h : Balanced signs) (hrest : rest ≠ []) :
    Bare (parens signs ++ rest) := by
  rw [parens, List.cons_append, List.append_assoc]
  exact .inr (.inr ⟨signs, rest, rfl, h, hrest⟩)

/-- No parentheses enclose an operand and what follows it. -/
theorem bare_operand_append (vars : List Variable) (format : VariableFormat) (o : Operand)
    (hrest : rest ≠ []) : Bare (operandSigns vars format o ++ rest) := by
  obtain ⟨source, value⟩ := o
  cases source with
  | «variable» =>
      cases format with
      | inline => exact .inl (by simp [operandSigns, Sign.string, Sign.op])
      | properties => exact bare_parens_append (lookupSigns_unjoined _ _).balanced hrest
  | environment => exact .inl (by simp [operandSigns, Sign.ident, Sign.op])
  | property => exact .inl (by simp [operandSigns, Sign.ident, Sign.op])
  | literal => exact .inl (by simp [operandSigns, Sign.string, Sign.op])

/-- No parentheses enclose the expression of a condition. -/
theorem bare_conditionSigns (c : Condition) : Bare (conditionSigns vars format c) := by
  obtain ⟨left, operator, right⟩ := c
  have hnumber : ∀ rest, rest ≠ [] → Bare (numberSigns (operandSigns vars format left) ++ rest) :=
    fun rest hrest => bare_parens_append
      ((operandSigns_unjoined vars format left).append conversionSigns_unjoined).balanced hrest
  cases operator with
  | notContains => exact .inl (by simp [conditionSigns, comparisonSigns, Sign.op])
  | «matches» => exact .inl (by simp [conditionSigns, comparisonSigns, Sign.ident, Sign.op])
  | greaterThan | lessThan | greaterOrEqual | lessOrEqual => exact hnumber _ (by simp)
  | _ => exact bare_operand_append vars format left (by simp)

/-- No parentheses enclose joined conditions. -/
theorem bare_joinedSigns (vars : List Variable) (format : VariableFormat) (logic : Logic)
    (c : Condition) (cs : List Condition) :
    Bare (joinedSigns logic ((c :: cs).map (conditionSigns vars format))) := by
  cases cs with
  | nil => exact bare_conditionSigns c
  | cons d cs =>
      have hc := (comparisonSigns_unjoined c.operator (operandSigns_unjoined vars format c.left)
        (operandSigns_unjoined vars format c.right)).balanced
      simp only [joinedSigns, List.map_cons, List.intercalate_cons_cons, List.append_assoc]
      exact bare_parens_append hc (by simp)

end Bareness

section Cutting

theorem conditionSigns_unjoined (vars : List Variable) (format : VariableFormat) (c : Condition) :
    Unjoined (conditionSigns vars format c) :=
  comparisonSigns_unjoined c.operator (operandSigns_unjoined vars format c.left)
    (operandSigns_unjoined vars format c.right)

theorem parens_unjoined (h : Unjoined signs) : Unjoined (parens signs) :=
  .group rfl h.balanced h.significant .nil

/-- Joined parts hold no operator but those that join them. -/
theorem uncut_intercalate {operator mark : String} (hmark : (Sign.op mark).isPlain = true)
    (hne : mark ≠ operator) {parts : List (List Sign)} (h : ∀ part ∈ parts, Uncut operator part) :
    Uncut operator (List.intercalate [.op mark] parts) := by
  induction parts with
  | nil => exact .nil
  | cons part parts ih =>
      obtain ⟨hpart, hparts⟩ := List.forall_mem_cons.1 h
      cases parts with
      | nil => simpa using hpart
      | cons second parts =>
          rw [List.intercalate_cons_cons, List.append_assoc]
          exact hpart.append (.plain hmark (by simpa [Sign.op] using hne) (ih hparts))

theorem allSignificant_intercalate {mark : String} {parts : List (List Sign)}
    (h : ∀ part ∈ parts, AllSignificant part) :
    AllSignificant (List.intercalate [.op mark] parts) := by
  induction parts with
  | nil => simp [AllSignificant]
  | cons part parts ih =>
      obtain ⟨hpart, hparts⟩ := List.forall_mem_cons.1 h
      cases parts with
      | nil => simpa using hpart
      | cons second parts =>
          rw [List.intercalate_cons_cons]
          intro s hs
          simp only [List.mem_append, List.mem_singleton] at hs
          rcases hs with (hs | rfl) | hs
          · exact hpart s hs
          · rfl
          · exact ih hparts s hs

/-- Tokens of joined parts are cut apart by the operator that joins them, and by no other. -/
theorem cut_joined (logic : Logic) {first second : List Sign} {parts : List (List Sign)}
    (h : ∀ part ∈ first :: second :: parts, Unjoined part)
    (htokens : tokens.map Token.sign = joinedSigns logic (first :: second :: parts)) :
    (splitTopLevel (joint logic) tokens).map (List.map Token.sign) =
        (first :: second :: parts).map parens ∧
      ∀ other, other ≠ logic → (splitTopLevel (joint other) tokens).length = 1 := by
  have hparens : ∀ part ∈ (first :: second :: parts).map parens, Unjoined part := by
    intro part hpart
    obtain ⟨inner, hinner, rfl⟩ := List.mem_map.1 hpart
    exact parens_unjoined (h inner hinner)
  have huncut : ∀ logic : Logic, ∀ part ∈ (first :: second :: parts).map parens,
      Uncut (joint logic) part := by
    intro logic part hpart
    cases logic with
    | all => exact (hparens part hpart).conjoined
    | any => exact (hparens part hpart).disjoined
  have hsignificant := fun part hpart => (hparens part hpart).significant
  have hplain : ∀ logic, (Sign.op (joint logic)).isPlain = true := by
    intro logic
    cases logic <;> rfl
  have hjoined : joinedSigns logic (first :: second :: parts) =
      List.intercalate [.op (joint logic)] ((first :: second :: parts).map parens) := rfl
  rw [hjoined] at htokens
  refine ⟨splitTopLevel_intercalate (hplain logic) (huncut logic) hsignificant htokens, ?_⟩
  intro other hother
  have hmark : joint logic ≠ joint other := by
    cases logic <;> cases other <;> simp [joint] at hother ⊢
  -- the other operator joins nothing here, so it leaves everything in one piece
  have hwhole : (splitTopLevel (joint other) tokens).map (List.map Token.sign) =
      [List.intercalate [.op (joint logic)] ((first :: second :: parts).map parens)] :=
    splitTopLevel_intercalate (hplain other)
      (by simpa using uncut_intercalate (hplain logic) hmark (huncut other))
      (by simpa using allSignificant_intercalate hsignificant) (by simpa using htokens)
  simpa using congrArg List.length hwhole

/-- Tokens that hold no operator between conditions stay in one piece. -/
theorem splitTopLevel_unjoined (h : Unjoined signs) (htokens : tokens.map Token.sign = signs)
    (logic : Logic) : (splitTopLevel (joint logic) tokens).map (List.map Token.sign) = [signs] := by
  have huncut : Uncut (joint logic) signs := by
    cases logic with
    | all => exact h.conjoined
    | any => exact h.disjoined
  refine splitTopLevel_intercalate ?_ (by simpa using huncut) (by simpa using h.significant)
    (by simpa using htokens)
  cases logic <;> rfl

end Cutting

section Reading

/-- Joined conditions are read as a guard. -/
def joinedGuard? (declared : List String) (mode : GuardMode) (tokens : List Token) : Option Guard :=
  let conjuncts := splitTopLevel "&&" tokens
  let disjuncts := splitTopLevel "||" tokens
  if 1 < conjuncts.length && 1 < disjuncts.length then none
  else
    let (logic, parts) : Logic × List (List Token) :=
      if 1 < disjuncts.length then (.any, disjuncts) else (.all, conjuncts)
    (parts.mapM fun part => atom? declared (stripParens part)).map fun conditions =>
      { mode, conditions, logic }

theorem guard?_eq (declared : List String) (tokens : List Token) :
    guard? declared tokens =
      joinedGuard? declared (guardMode (stripParens tokens)).1 (guardMode (stripParens tokens)).2 :=
  rfl

/-- Conditions between parentheses are read one after another. -/
theorem mapM_atom? {pieces : List (List Token)} {conditions : List Condition}
    (h : pieces.map (List.map Token.sign) =
      (conditions.map (conditionSigns vars format)).map parens) :
    (pieces.mapM fun piece => atom? declared (stripParens piece)) =
      some (conditions.map (keptCondition vars format)) := by
  induction conditions generalizing pieces with
  | nil =>
      obtain rfl := List.map_eq_nil_iff.1 h
      rfl
  | cons c conditions ih =>
      obtain ⟨piece, more, rfl, hpiece, hmore⟩ := List.map_eq_cons_iff.1 h
      have hc := conditionSigns_unjoined vars format c
      have hstrip := stripParens_parens (bare_conditionSigns c) hc.balanced hc.significant hpiece
      rw [List.mapM_cons, atom?_conditionSigns declared c hstrip, ih hmore]
      rfl

/-- A single condition is read back. How it would be joined is not written. -/
theorem joinedGuard?_single (declared : List String) (mode : GuardMode) (logic : Logic)
    (c : Condition) (htokens : tokens.map Token.sign = conditionSigns vars format c) :
    joinedGuard? declared mode tokens =
      some (keptGuard vars format { mode, conditions := [c], logic }) := by
  have hc := conditionSigns_unjoined vars format c
  have hconjuncts := splitTopLevel_unjoined hc htokens .all
  have hdisjuncts := congrArg List.length (splitTopLevel_unjoined hc htokens .any)
  obtain ⟨piece, more, hsplit, hpiece, hmore⟩ := List.map_eq_cons_iff.1 hconjuncts
  obtain rfl := List.map_eq_nil_iff.1 hmore
  rw [List.length_map, List.length_singleton] at hdisjuncts
  simp only [joint] at hsplit hdisjuncts
  have hread : atom? declared (stripParens piece) = some (keptCondition vars format c) := by
    rw [stripParens_bare (bare_conditionSigns c) hc.significant hpiece]
    exact atom?_conditionSigns declared c hpiece
  simp [joinedGuard?, hsplit, hdisjuncts, hread, keptGuard]

/-- Several conditions are read back, with the operator that joins them. -/
theorem joinedGuard?_several (declared : List String) (mode : GuardMode) (logic : Logic)
    (c d : Condition) (conditions : List Condition)
    (htokens : tokens.map Token.sign =
      joinedSigns logic ((c :: d :: conditions).map (conditionSigns vars format))) :
    joinedGuard? declared mode tokens =
      some (keptGuard vars format { mode, conditions := c :: d :: conditions, logic }) := by
  have hparts : ∀ part ∈ (c :: d :: conditions).map (conditionSigns vars format),
      Unjoined part := by
    intro part hpart
    obtain ⟨e, -, rfl⟩ := List.mem_map.1 hpart
    exact conditionSigns_unjoined vars format e
  obtain ⟨hpieces, hother⟩ := cut_joined logic hparts htokens
  have hlength : 1 < (splitTopLevel (joint logic) tokens).length := by
    have hlen := congrArg List.length hpieces
    simp only [List.length_map, List.length_cons] at hlen
    omega
  have hread : ((splitTopLevel (joint logic) tokens).mapM fun piece =>
      atom? declared (stripParens piece)) =
      some ((c :: d :: conditions).map (keptCondition vars format)) :=
    mapM_atom? hpieces
  -- Disjuncts are looked for first, but only the operator that joins finds several.
  cases logic with
  | all =>
      have hone := hother .any (by decide)
      simp only [joint] at hone hlength hread
      simp [joinedGuard?, hone, hread, keptGuard]
  | any =>
      have hone := hother .all (by decide)
      simp only [joint] at hone hlength hread
      simp [joinedGuard?, hone, hlength, hread, keptGuard]

theorem joinedGuard?_eq (declared : List String) (mode : GuardMode) (logic : Logic)
    {conditions : List Condition} (hne : conditions ≠ [])
    (htokens : tokens.map Token.sign =
      joinedSigns logic (conditions.map (conditionSigns vars format))) :
    joinedGuard? declared mode tokens =
      some (keptGuard vars format { mode, conditions, logic }) := by
  obtain ⟨c, conditions, rfl⟩ := List.exists_cons_of_ne_nil hne
  cases conditions with
  | nil => exact joinedGuard?_single declared mode logic c htokens
  | cons d conditions => exact joinedGuard?_several declared mode logic c d conditions htokens

/-- Nothing is taken off what does not start with a negation. -/
theorem guardMode_of_head (h : signs.head? ≠ some (.op "!"))
    (htokens : tokens.map Token.sign = signs) : guardMode tokens = (.onlyIf, tokens) := by
  have hhead : tokens.head?.any (·.isOp "!") = false := by
    rw [head?_isOp htokens, beq_eq_false_iff_ne]
    exact h
  simp [guardMode, hhead]

/-- A negation of a part is not taken off. -/
theorem guardMode_of_bare (h : Bare signs) (hsignificant : AllSignificant signs)
    (htokens : tokens.map Token.sign = .op "!" :: signs) :
    guardMode tokens = (.onlyIf, tokens) := by
  obtain ⟨t, inside, rfl, -, hinside⟩ := List.map_eq_cons_iff.1 htokens
  have hstrip := stripParens_bare h hsignificant hinside
  simp [guardMode, hstrip]

/-- A negation of the whole is taken off with its parentheses. -/
theorem guardMode_negated (h : Bare signs) (hbalanced : Balanced signs)
    (hsignificant : AllSignificant signs)
    (htokens : tokens.map Token.sign = .op "!" :: parens signs) :
    ∃ inside, guardMode tokens = (.skipIf, inside) ∧ inside.map Token.sign = signs := by
  obtain ⟨t, tail, rfl, ht, htail⟩ := List.map_eq_cons_iff.1 htokens
  have hstrip := stripParens_parens h hbalanced hsignificant htail
  obtain ⟨o, inside, u, after, rfl, ho, hinside, hu, hafter⟩ := exists_group_tokens htail
  obtain rfl := List.map_eq_nil_iff.1 hafter
  refine ⟨stripParens (o :: (inside ++ [u])), ?_, hstrip⟩
  have hlength : (stripParens (o :: (inside ++ [u]))).length = inside.length := by
    have hinner := congrArg List.length (hstrip.trans hinside.symm)
    rwa [List.length_map, List.length_map] at hinner
  have hmark : t.isOp "!" = true := by simp [isOp_of_sign ht]
  have hopen : o.isOp "(" = true := by simp [isOp_of_sign ho]
  have hclose : u.isOp ")" = true := by simp [isOp_of_sign hu]
  simp [guardMode, hmark, hopen, hclose, hlength, List.getLast?_cons]

/-- Joined conditions hold nothing that is passed over, and their delimiters are paired. -/
theorem joinedSigns_facts (vars : List Variable) (format : VariableFormat) (logic : Logic)
    (c : Condition) (cs : List Condition) :
    AllSignificant (joinedSigns logic ((c :: cs).map (conditionSigns vars format))) ∧
      Balanced (joinedSigns logic ((c :: cs).map (conditionSigns vars format))) := by
  cases cs with
  | nil => exact ⟨(conditionSigns_unjoined vars format c).significant,
      (conditionSigns_unjoined vars format c).balanced⟩
  | cons d cs =>
      have hparts : ∀ part ∈ ((c :: d :: cs).map (conditionSigns vars format)).map parens,
          Unjoined part := by
        simp only [List.mem_map, forall_exists_index, and_imp, forall_apply_eq_imp_iff₂]
        exact fun e _ => parens_unjoined (conditionSigns_unjoined vars format e)
      refine ⟨allSignificant_intercalate fun part hpart => (hparts part hpart).significant, ?_⟩
      cases logic with
      | all =>
          have huncut : Uncut "||"
              (joinedSigns .all ((c :: d :: cs).map (conditionSigns vars format))) :=
            uncut_intercalate rfl (by decide) fun part hpart => (hparts part hpart).disjoined
          exact huncut.balanced
      | any =>
          have huncut : Uncut "&&"
              (joinedSigns .any ((c :: d :: cs).map (conditionSigns vars format))) :=
            uncut_intercalate rfl (by decide) fun part hpart => (hparts part hpart).conjoined
          exact huncut.balanced

/-- No negation is taken off joined conditions. -/
theorem guardMode_joined (logic : Logic) (c : Condition) (cs : List Condition)
    (htokens : tokens.map Token.sign =
      joinedSigns logic ((c :: cs).map (conditionSigns vars format))) :
    guardMode tokens = (.onlyIf, tokens) := by
  cases cs with
  | nil =>
      obtain ⟨left, operator, right⟩ := c
      change tokens.map Token.sign = conditionSigns vars format ⟨left, operator, right⟩ at htokens
      have hleft := operandSigns_unjoined vars format left
      have hhead : ∀ rest, (operandSigns vars format left ++ rest).head? ≠ some (.op "!") := by
        obtain ⟨s, tail, hsigns, -, -, -, hne⟩ := operandSigns_eq_cons vars format left
        simpa [hsigns] using hne
      cases operator with
      | notContains =>
          refine guardMode_of_bare (bare_operand_append vars format left (by simp)) ?_ htokens
          exact (methodSigns_unjoined "contains" hleft
            (operandSigns_unjoined vars format right)).significant
      | «matches» =>
          exact guardMode_of_head
            (by simp [conditionSigns, comparisonSigns, Sign.ident, Sign.op]) htokens
      | greaterThan | lessThan | greaterOrEqual | lessOrEqual =>
          exact guardMode_of_head
            (by simp [conditionSigns, comparisonSigns, numberSigns, Sign.op]) htokens
      | _ => exact guardMode_of_head (hhead _) htokens
  | cons d cs => exact guardMode_of_head (by simp [joinedSigns, parens, Sign.op]) htokens

/-- The expression of a guard is read back to the guard that is kept. -/
theorem guard?_guardSigns (declared : List String) {g : Guard} (hne : g.conditions ≠ [])
    (htokens : tokens.map Token.sign = guardSigns vars format g) :
    guard? declared tokens = some (keptGuard vars format g) := by
  obtain ⟨mode, conditions, logic⟩ := g
  obtain ⟨c, cs, rfl⟩ := List.exists_cons_of_ne_nil hne
  obtain ⟨hsignificant, hbalanced⟩ := joinedSigns_facts vars format logic c cs
  have hbare := bare_joinedSigns vars format logic c cs
  cases mode with
  | onlyIf =>
      rw [guard?_eq, stripParens_bare hbare hsignificant htokens,
        guardMode_joined logic c cs htokens]
      exact joinedGuard?_eq declared .onlyIf logic hne htokens
  | skipIf =>
      have hwhole : Bare (.op "!" :: parens (joinedSigns logic
          ((c :: cs).map (conditionSigns vars format)))) := .inl (by simp [Sign.op])
      have hall : AllSignificant (.op "!" :: parens (joinedSigns logic
          ((c :: cs).map (conditionSigns vars format)))) := by
        simpa [AllSignificant, parens, Sign.isSignificant, Sign.op, or_imp, forall_and]
          using hsignificant
      obtain ⟨inside, hmode, hinside⟩ := guardMode_negated hbare hbalanced hsignificant htokens
      rw [guard?_eq, stripParens_bare hwhole hall htokens, hmode]
      exact joinedGuard?_eq declared .skipIf logic hne hinside

end Reading

section Statements

theorem joinedSigns_ne_nil (vars : List Variable) (format : VariableFormat) (logic : Logic)
    (c : Condition) (cs : List Condition) :
    joinedSigns logic ((c :: cs).map (conditionSigns vars format)) ≠ [] := by
  cases cs with
  | nil =>
      obtain ⟨left, operator, right⟩ := c
      change conditionSigns vars format ⟨left, operator, right⟩ ≠ []
      cases operator <;>
        simp [conditionSigns, comparisonSigns, methodSigns, memberSigns, numberSigns]
  | cons d cs => simp [joinedSigns, parens]

theorem guardSigns_facts (vars : List Variable) (format : VariableFormat) {g : Guard}
    (hne : g.conditions ≠ []) : AllSignificant (guardSigns vars format g) ∧
      Balanced (guardSigns vars format g) ∧ guardSigns vars format g ≠ [] := by
  obtain ⟨mode, conditions, logic⟩ := g
  obtain ⟨c, cs, rfl⟩ := List.exists_cons_of_ne_nil hne
  obtain ⟨hsignificant, hbalanced⟩ := joinedSigns_facts vars format logic c cs
  cases mode with
  | onlyIf =>
      exact ⟨hsignificant, hbalanced, joinedSigns_ne_nil vars format logic c cs⟩
  | skipIf =>
      refine ⟨?_, .plain rfl (.group rfl hbalanced .nil), by simp [guardSigns]⟩
      simpa [guardSigns, AllSignificant, parens, Sign.isSignificant, Sign.op, or_imp, forall_and]
        using hsignificant

/-- The signs of the statement of a guard. -/
def onlyIf (signs : List Sign) : List Sign :=
  .ident "onlyIf" :: .op "\x7b" :: (signs ++ [.op "\x7d"])

theorem reads_guardStatement (text : String) (declared : List String) {g : Guard}
    (hne : g.conditions ≠ []) :
    Reads (guardStatement text declared) (onlyIf (guardSigns vars format g))
      (changing fun b => { b with condition := some (keptGuard vars format g) }) := by
  obtain ⟨hsignificant, hbalanced, hsigns⟩ := guardSigns_facts vars format hne
  refine reads_ident.step (reads_group_bind rfl hbalanced fun inside hinside => ?_)
  have hsome : inside ≠ [] := by
    rintro rfl
    exact hsigns hinside.symm
  rw [filter_isSignificant hsignificant hinside]
  dsimp only
  rw [guard?_guardSigns declared hne hinside]
  exact (reads_require (by simpa using hsome)).pass (reads_pure _)

/-- A guard is understood as the guard that is kept. -/
theorem understood_guard {g : Guard} (hne : g.conditions ≠ []) :
    Understood (onlyIf (guardSigns vars format g))
      fun b => { b with condition := some (keptGuard vars format g) } where
  statement :=
    { inline := .plain rfl (.group rfl (guardSigns_facts vars format hne).2.1 .nil)
      starts := ⟨_, _, rfl⟩
      ends := by
        intro s hs
        have hlast : (onlyIf (guardSigns vars format g)).getLast? = some (.op "\x7d") := by
          rw [onlyIf, ← List.cons_append, ← List.cons_append, List.getLast?_concat]
        obtain rfl := Option.some.inj (hlast.symm.trans hs)
        decide }
  read := fun text declared tokens b htokens => by
    have hassignment : Misses assignment (onlyIf (guardSigns vars format g)) :=
      reads_anyIdent.misses_step (Misses.bind ((misses_op rfl (by decide)).cons _))
    have hsetter : Misses setterCall (onlyIf (guardSigns vars format g)) :=
      reads_anyIdent.misses_step (Misses.bind ((misses_op rfl (by decide)).cons _))
    have hmethod : Misses (methodCall text) (onlyIf (guardSigns vars format g)) :=
      reads_anyIdent.misses_step (Misses.bind ((misses_group rfl (by decide)).cons _))
    rw [statementReadings, readStatement_of_misses hassignment htokens,
      readStatement_of_misses hsetter htokens, readStatement_of_misses hmethod htokens]
    exact readStatement_of_readsAll (.of_reads (reads_guardStatement text declared hne)) htokens b

end Statements

end BuildGraph.Script
