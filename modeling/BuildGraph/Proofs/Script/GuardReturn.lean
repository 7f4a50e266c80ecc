import BuildGraph.Guard.Evaluate
import BuildGraph.Proofs.Script.Ensured
import BuildGraph.Proofs.Script.GuardText

/-!
# Guards that come back

What the statement of a guard says between its braces is read back to the guard itself, up to the
operands that no operator asks for, the way to join a single condition, and the variables that a
script without declarations replaces; none of this changes a decision. In the other direction every
guard that is read at all, from whatever tokens, has nothing left to lose: `guard_round_trip` says
both.
-/

namespace BuildGraph.Script

open Recognizer

section Settled

variable {declared : List String} {tokens : List Token} {g : Guard}

/-- A condition holds no operand that its operator does not ask for. -/
def SettledCondition (c : Condition) : Prop :=
  c.operator.isUnary = true → c.right = {}

/-- A guard has conditions, none of them holds an operand that is not asked for, and a single one is
joined as a text of one condition is read. -/
structure SettledGuard (g : Guard) : Prop where
  conditions_ne : g.conditions ≠ []
  conditions : ∀ c ∈ g.conditions, SettledCondition c
  logic : g.conditions.length = 1 → g.logic = .all

/-- The right operand of an operator with two operands is settled. -/
theorem settled_of_binary {operator : Operator} (h : operator.isUnary = false)
    (left right : Operand) : SettledCondition ⟨left, operator, right⟩ := by
  intro hunary
  rw [h] at hunary
  cases hunary

theorem isUnary_of_comparison? {t : Token} {operator : Operator}
    (h : comparison? t = some operator) : operator.isUnary = false := by
  unfold comparison? at h
  split_ifs at h <;> cases h <;> rfl

theorem isUnary_of_textMethod? {method : String} {operator : Operator}
    (h : textMethod? method = some operator) : operator.isUnary = false := by
  unfold textMethod? at h
  split_ifs at h <;> cases h <;> rfl

theorem yields_patternSearch : Yields (patternSearch declared) SettledCondition :=
  yields_bind fun _ => yields_bind fun _ => yields_bind fun _ => yields_bind fun _ =>
    yields_bind fun _ => yields_bind fun _ => yields_bind fun _ =>
      yields_pure (settled_of_binary rfl _ _)

theorem yields_patternAtom : Yields (patternAtom declared) SettledCondition := by
  refine Yields.orElse ?_ yields_patternSearch
  iterate 7 refine yields_bind fun _ => ?_
  exact (yields_patternSearch.bind fun _ hc => yields_bind fun _ => yields_pure hc).within _

theorem yields_presenceAtom : Yields presenceAtom SettledCondition := by
  refine Yields.orElse ?_ ?_
  · exact yields_bind fun _ => yields_bind fun _ => yields_bind fun _ => yields_pure fun _ => rfl
  · refine yields_bind fun _ => yields_bind fun _ => Yields.orElse ?_ ?_
    · exact yields_bind fun _ => yields_bind fun _ => yields_pure fun _ => rfl
    · exact yields_bind fun _ => yields_bind fun _ => yields_bind fun _ =>
        yields_pure fun _ => rfl

theorem yields_negatedContainsAtom : Yields (negatedContainsAtom declared) SettledCondition :=
  yields_bind fun _ => yields_bind fun _ => yields_bind fun _ => yields_bind fun _ =>
    yields_bind fun _ => yields_bind fun _ => yields_pure (settled_of_binary rfl _ _)

theorem yields_numericAtom : Yields (numericAtom declared) SettledCondition :=
  yields_bind fun _ => yields_bind fun _ => (yields_ofOption _).bind fun _ hoperator =>
    yields_bind fun _ => yields_pure (settled_of_binary (isUnary_of_comparison? hoperator) _ _)

theorem yields_methodAtom (left : Operand) :
    Yields (methodAtom declared left) SettledCondition := by
  refine yields_bind fun method => ?_
  -- the tests of one text leave out the right operand, the other methods compare two texts
  split_ifs
  · exact yields_bind fun _ => yields_pure fun _ => rfl
  · exact yields_bind fun _ => yields_pure fun _ => rfl
  · iterate 6 refine yields_bind fun _ => ?_
    exact yields_pure fun _ => rfl
  · exact (yields_ofOption _).bind fun _ hoperator => yields_bind fun _ => yields_bind fun _ =>
      yields_pure (settled_of_binary (isUnary_of_textMethod? hoperator) _ _)

theorem yields_textAtom : Yields (textAtom declared) SettledCondition := by
  refine yields_bind fun left => Yields.orElse ?_ (Yields.orElse ?_ ?_)
  · exact yields_bind fun _ => yields_bind fun _ => yields_pure (settled_of_binary rfl _ _)
  · exact yields_bind fun _ => yields_bind fun _ => yields_pure (settled_of_binary rfl _ _)
  · exact yields_bind fun _ => yields_methodAtom left

/-- Every condition that is read is settled. -/
theorem settled_of_atom? {c : Condition} (h : atom? declared tokens = some c) :
    SettledCondition c := by
  obtain ⟨reading, hreading, hfound⟩ := List.exists_of_findSome?_eq_some h
  have hyields : Yields reading SettledCondition := by
    simp only [atomReadings, List.mem_cons, List.not_mem_nil, or_false] at hreading
    rcases hreading with rfl | rfl | rfl | rfl | rfl
    · exact yields_patternAtom
    · exact yields_presenceAtom
    · exact yields_negatedContainsAtom
    · exact yields_numericAtom
    · exact yields_textAtom
  cases hread : reading ⟨tokens, 0⟩ with
  | found d rest =>
      simp only [hread] at hfound
      split_ifs at hfound
      obtain rfl := Option.some.inj hfound
      exact hyields.found hread
  | absent => simp [hread] at hfound
  | stopped cause => simp [hread] at hfound

theorem cutFrom_ne_nil (operator : String) (tokens : List Token) (depth : Int)
    (piece : List Token) : cutFrom operator depth piece tokens ≠ [] := by
  induction tokens generalizing depth piece with
  | nil => simp [cutFrom]
  | cons t tokens ih =>
      rw [cutFrom]
      dsimp only
      split_ifs
      · simp
      · exact ih _ _
      · exact ih _ _

/-- Conditions that are read one by one make a settled guard. -/
theorem settled_of_parts {parts : List (List Token)} {conditions : List Condition} {logic : Logic}
    (hread : (parts.mapM fun part => atom? declared (stripParens part)) = some conditions)
    (hne : parts ≠ []) (hlogic : parts.length = 1 → logic = .all) (mode : GuardMode) :
    SettledGuard { mode, conditions, logic } := by
  obtain ⟨hlength, hsettled⟩ :=
    forall_mem_of_mapM (fun part _ c hc => settled_of_atom? hc) hread
  refine ⟨?_, hsettled, fun hone => hlogic (hlength.symm.trans hone)⟩
  rintro rfl
  exact hne (List.length_eq_zero_iff.1 hlength.symm)

/-- Every guard that is read is settled. -/
theorem settled_of_guard? (h : guard? declared tokens = some g) : SettledGuard g := by
  rw [guard?_eq, joinedGuard?] at h
  dsimp only at h
  split_ifs at h with htwo hany
  · obtain ⟨conditions, hconditions, rfl⟩ := Option.map_eq_some_iff.1 h
    exact settled_of_parts hconditions (cutFrom_ne_nil _ _ _ _)
      (fun hone => absurd hone hany.ne') _
  · obtain ⟨conditions, hconditions, rfl⟩ := Option.map_eq_some_iff.1 h
    exact settled_of_parts hconditions (cutFrom_ne_nil _ _ _ _)
      (fun _ => rfl) _

end Settled

section Kept

variable {vars : List Variable} {format : VariableFormat} {c : Condition} {g : Guard}

/-- What is settled is kept by a script that declares variables. -/
theorem keptCondition_of_settled (h : SettledCondition c) :
    keptCondition vars .properties c = c := by
  obtain ⟨left, operator, right⟩ := c
  rw [keptCondition, keptOperand_properties, keptOperand_properties]
  cases hunary : operator.isUnary with
  | false => rfl
  | true =>
      obtain rfl := h hunary
      rfl

theorem keptGuard_of_settled (h : SettledGuard g) : keptGuard vars .properties g = g := by
  obtain ⟨mode, conditions, logic⟩ := g
  have hconditions : conditions.map (keptCondition vars .properties) = conditions :=
    (List.map_congr_left fun c hc => keptCondition_of_settled (h.conditions c hc)).trans
      (List.map_id _)
  have hlogic : (if conditions.length = 1 then .all else logic) = logic := by
    split_ifs with hone
    · exact (h.logic hone).symm
    · rfl
  simp only [keptGuard, hconditions, hlogic]

/-- An operand that is not asked for does not count. -/
theorem keptCondition_holds (context : GuardContext) :
    (keptCondition vars .properties c).holds context = c.holds context := by
  simp only [keptCondition, Condition.holds, keptOperand_properties]
  cases c.operator.isUnary <;> rfl

/-- How a single condition is joined does not count. -/
theorem keptGuard_holds (context : GuardContext) :
    (keptGuard vars .properties g).holds context = g.holds context := by
  obtain ⟨mode, conditions, logic⟩ := g
  have hresults : ((conditions.map (keptCondition vars .properties)).mapM
      fun c : Condition => c.holds context) = conditions.mapM fun c => c.holds context := by
    rw [List.mapM_map]
    exact congrArg (conditions.mapM ·) (funext fun c => keptCondition_holds context)
  rcases conditions with _ | ⟨c, _ | ⟨d, conditions⟩⟩
  case nil => rfl
  case cons.nil =>
    have hlogic : ∀ result, Logic.combine [result] .all = Logic.combine [result] logic := by
      intro result
      cases logic <;> simp [Logic.combine]
    have hone : (keptCondition vars .properties c).holds context = c.holds context :=
      keptCondition_holds context
    simp only [Guard.holds, keptGuard, List.map_cons, List.map_nil, List.mapM_cons, List.mapM_nil,
      List.length_singleton, if_true, hone]
    cases c.holds context with
    | error fault => rfl
    | ok result => exact congrArg Except.ok (hlogic result)
  case cons.cons =>
    simp only [Guard.holds, keptGuard, hresults]
    simp

theorem keptGuard_refusal (context : GuardContext) :
    (keptGuard vars .properties g).refusal context = g.refusal context := by
  have hempty : (keptGuard vars .properties g).conditions.isEmpty = g.conditions.isEmpty :=
    List.isEmpty_map
  rw [Guard.refusal, Guard.refusal, hempty, keptGuard_holds]
  rfl

end Kept

section RoundTrip

/-- The guard that a text states, if it states one. -/
def guardOfText? (declared : List String) (text : String) : Option Guard :=
  guard? declared ((scan text).tokens.filter Token.isSignificant)

theorem scan_of_scans {text : String} {signs : List Sign} (h : Scans text.toList signs) :
    (scan text).tokens.map Token.sign = signs := by
  obtain ⟨tokens, htokens, hscan⟩ := h.whole
  rw [scan, hscan]
  exact htokens.signs

/-- The expression of a guard states the guard that is kept. -/
theorem guardOfText?_guardExpression (vars : List Variable) (format : VariableFormat)
    (declared : List String) {g : Guard} (hne : g.conditions ≠ []) :
    guardOfText? declared (guardExpression vars format g) = some (keptGuard vars format g) := by
  have htokens := scan_of_scans (written_guardExpression vars format hne).scans
  rw [guardOfText?, filter_isSignificant (guardSigns_facts vars format hne).1 htokens]
  exact guard?_guardSigns declared hne htokens

/-- What stands between the braces of the statement of a guard is read back to the guard that is
kept, which decides as the guard itself does when variables are declared; and a guard that is read
from any tokens comes back unchanged from its own statement. -/
theorem guard_round_trip (vars : List Variable) (declared : List String) :
    (∀ (format : VariableFormat) (g : Guard), g.conditions ≠ [] →
      ∃ text, guardStatement? vars format g = some ("onlyIf \x7b " ++ text ++ " \x7d") ∧
        guardOfText? declared text = some (keptGuard vars format g)) ∧
    (∀ (g : Guard) (context : GuardContext),
      (keptGuard vars .properties g).refusal context = g.refusal context) ∧
    ∀ (names : List String) (tokens : List Token) (g : Guard), guard? names tokens = some g →
      ∃ text, guardStatement? vars .properties g = some ("onlyIf \x7b " ++ text ++ " \x7d") ∧
        guardOfText? declared text = some g := by
  have hwritten : ∀ (format : VariableFormat) (g : Guard), g.conditions ≠ [] →
      ∃ text, guardStatement? vars format g = some ("onlyIf \x7b " ++ text ++ " \x7d") ∧
        guardOfText? declared text = some (keptGuard vars format g) := by
    intro format g hne
    refine ⟨guardExpression vars format g, ?_,
      guardOfText?_guardExpression vars format declared hne⟩
    rw [guardStatement?, if_neg (by simpa using hne)]
  refine ⟨hwritten, fun g context => keptGuard_refusal context, fun names tokens g hread => ?_⟩
  have hsettled := settled_of_guard? hread
  obtain ⟨text, hstatement, htext⟩ := hwritten .properties g hsettled.conditions_ne
  exact ⟨text, hstatement, htext.trans (congrArg some (keptGuard_of_settled hsettled))⟩

/-- A negated guard whose variable becomes its default and whose unary operator loses an operand,
and a guard in the words of a hand-written script. -/
theorem guard_round_trip_idioms :
    let negated : Guard := {
      mode := .skipIf, logic := .any
      conditions := [⟨⟨.variable, "version"⟩, .notContains, ⟨.literal, "!(a).b"⟩⟩,
        ⟨⟨.environment, "CI"⟩, .isEmpty, ⟨.property, "left over"⟩⟩] }
    let handWritten := (scan "System.getenv(\"CI\") != null && (flag == \"on\")").tokens
    let read : Guard := {
      conditions := [⟨⟨.environment, "CI"⟩, .isNotEmpty, {}⟩,
        ⟨⟨.variable, "flag"⟩, .equals, ⟨.literal, "on"⟩⟩] }
    negated.conditions ≠ [] ∧ guard? ["flag"] handWritten = some read ∧
      (∃ text, guardStatement? systemVariables .inline negated =
          some ("onlyIf \x7b " ++ text ++ " \x7d") ∧
        guardOfText? [] text = some { negated with
          conditions := [⟨⟨.literal, "unspecified"⟩, .notContains, ⟨.literal, "!(a).b"⟩⟩,
            ⟨⟨.environment, "CI"⟩, .isEmpty, {}⟩] }) ∧
      ∃ text, guardStatement? systemVariables .properties read =
          some ("onlyIf \x7b " ++ text ++ " \x7d") ∧ guardOfText? [] text = some read := by
  intro negated handWritten read
  have hread : guard? ["flag"] handWritten = some read := by decide +kernel
  have hround := guard_round_trip systemVariables []
  exact ⟨by decide, hread, hround.1 .inline negated (by decide),
    hround.2.2 ["flag"] handWritten read hread⟩

end RoundTrip

end BuildGraph.Script
