import BuildGraph.Model.Guard
import BuildGraph.Number.Binary64
import BuildGraph.Pattern.Search
import BuildGraph.Table
import BuildGraph.Text.LowerCase

/-!
# Evaluating guards

Operands take their values from variables, the environment and the properties of a build; what is
absent there is the empty text. A comparison of numbers fails when a side is no number, and an
invalid pattern matches nothing. A guard without conditions never keeps a task from running.

Main definitions: `Condition.holds`, `Guard.holds`, `guardRefusal`.
-/

namespace BuildGraph

open BuildGraph.Text BuildGraph.Number

/-- The values that operands see. -/
structure GuardContext where
  vars : Table String String := ∅
  environment : Table String String := ∅
  properties : Table String String := ∅

/-- The value of an operand. -/
def Operand.value? (o : Operand) (context : GuardContext) : String :=
  match o.source with
  | .variable => (context.vars.get? o.value).getD ""
  | .environment => (context.environment.get? o.value).getD ""
  | .property => (context.properties.get? o.value).getD ""
  | .literal => o.value

/-- The number that an operand denotes. Only a plain decimal numeral denotes one. -/
def operandNumber? (s : String) : Option Binary64 :=
  readNumeral? ((trimChars s.toList).map plainDigit)

/-- Whether a comparison holds of two operands that are numbers. -/
def compareNumbers (test : Binary64 → Binary64 → Bool) (left right : String) : Bool :=
  match operandNumber? left, operandNumber? right with
  | some a, some b => test a b
  | _, _ => false

/-- Whether a pattern matches anywhere in a text. -/
def matchesPattern (pattern text : String) : Except PatternFault Bool :=
  match SearchPattern.read pattern with
  | .ok p => p.occursIn text
  | .error .invalid => .ok false
  | .error fault => .error fault

/-- Whether the operator holds of two values. -/
def Operator.holds (left right : String) : Operator → Except PatternFault Bool
  | equals => .ok (left == right)
  | notEquals => .ok (left != right)
  | contains => .ok (Text.contains left right)
  | notContains => .ok (!Text.contains left right)
  | startsWith => .ok (Text.startsWith left right)
  | endsWith => .ok (Text.endsWith left right)
  | .matches => matchesPattern right left
  | greaterThan => .ok (compareNumbers (fun a b => b.lt a) left right)
  | lessThan => .ok (compareNumbers Binary64.lt left right)
  | greaterOrEqual => .ok (compareNumbers (fun a b => b.le a) left right)
  | lessOrEqual => .ok (compareNumbers Binary64.le left right)
  | isEmpty => .ok (isBlankText left)
  | isNotEmpty => .ok (!isBlankText left)
  | isTrue => .ok (["true", "1"].contains (lower left))
  | isFalse => .ok (["false", "0", ""].contains (lower left))

/-- Whether a condition holds. -/
def Condition.holds (c : Condition) (context : GuardContext) : Except PatternFault Bool :=
  c.operator.holds (c.left.value? context)
    (if c.operator.isUnary then "" else c.right.value? context)

/-- Whether results joined by a logic come to true. -/
def Logic.combine (results : List Bool) : Logic → Bool
  | all => results.all id
  | any => results.any id

/-- Whether the conditions of a guard hold together. A guard without conditions has the result
that lets its task run. -/
def Guard.holds (g : Guard) (context : GuardContext) : Except PatternFault Bool :=
  if g.conditions.isEmpty then .ok (g.mode == .onlyIf)
  else
    (g.conditions.mapM fun c : Condition => c.holds context).map fun results =>
      g.logic.combine results

/-- Why a task is kept from running. -/
inductive GuardRefusal where
  | onlyIfFailed
  | skipIfHeld
  deriving DecidableEq, Repr

/-- The words for a refusal. -/
def GuardRefusal.message : GuardRefusal → String
  | onlyIfFailed => "Condition not met (onlyIf evaluated to false)"
  | skipIfHeld => "Skipped due to skipIf condition"

/-- Whether a guard keeps its task from running, and why. -/
def Guard.refusal (g : Guard) (context : GuardContext) :
    Except PatternFault (Option GuardRefusal) :=
  if g.conditions.isEmpty then .ok none
  else (g.holds context).map fun result =>
    match g.mode, result with
    | .onlyIf, false => some .onlyIfFailed
    | .skipIf, true => some .skipIfHeld
    | _, _ => none

/-- Whether a task that may have a guard is kept from running, and why. -/
def guardRefusal (guard : Option Guard) (context : GuardContext) :
    Except PatternFault (Option GuardRefusal) :=
  match guard with
  | some g => g.refusal context
  | none => .ok none

/-- A condition in words. -/
def Condition.describe (c : Condition) : String :=
  let side (o : Operand) : String := o.source.label ++ "(" ++ o.value ++ ")"
  if c.operator.isUnary then side c.left ++ " " ++ c.operator.label
  else side c.left ++ " " ++ c.operator.label ++ " " ++ side c.right

/-- A guard in words. -/
def Guard.describe (g : Guard) : String :=
  match g.mode, g.conditions with
  | .onlyIf, [] => "Always run"
  | .skipIf, [] => "Never skip"
  | mode, conditions =>
    (match mode with
      | .onlyIf => "Only if "
      | .skipIf => "Skip if ") ++
    String.intercalate (match g.logic with
      | .all => " AND "
      | .any => " OR ") (conditions.map Condition.describe)

end BuildGraph
