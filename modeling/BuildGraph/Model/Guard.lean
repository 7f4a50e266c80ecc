import BuildGraph.Named

/-!
# Guards

A guard decides whether a task of a run is executed: conditions on variables, the environment,
properties and literal texts, joined by "and" or by "or", that must hold (`onlyIf`) or must not
hold (`skipIf`).
-/

namespace BuildGraph

/-- How a condition compares its operands. -/
inductive Operator where
  | equals | notEquals | contains | notContains | startsWith | endsWith | matches
  | greaterThan | lessThan | greaterOrEqual | lessOrEqual
  | isEmpty | isNotEmpty | isTrue | isFalse
  deriving DecidableEq, Repr

namespace Operator

/-- The name of an operator. -/
def name : Operator → String
  | equals => "equals"
  | notEquals => "notEquals"
  | contains => "contains"
  | notContains => "notContains"
  | startsWith => "startsWith"
  | endsWith => "endsWith"
  | .matches => "matches"
  | greaterThan => "greaterThan"
  | lessThan => "lessThan"
  | greaterOrEqual => "greaterOrEqual"
  | lessOrEqual => "lessOrEqual"
  | isEmpty => "isEmpty"
  | isNotEmpty => "isNotEmpty"
  | isTrue => "isTrue"
  | isFalse => "isFalse"

instance : Named Operator where
  title := "ConditionOperator"
  all := [equals, notEquals, contains, notContains, startsWith, endsWith, .matches, greaterThan,
    lessThan, greaterOrEqual, lessOrEqual, isEmpty, isNotEmpty, isTrue, isFalse]
  name := name

/-- Whether the operator looks at the left operand alone. -/
def isUnary : Operator → Bool
  | isEmpty | isNotEmpty | isTrue | isFalse => true
  | _ => false

/-- Whether the operator compares numbers. -/
def isNumeric : Operator → Bool
  | greaterThan | lessThan | greaterOrEqual | lessOrEqual => true
  | _ => false

/-- The words for the operator in a description. -/
def label : Operator → String
  | equals => "equals"
  | notEquals => "does not equal"
  | contains => "contains"
  | notContains => "does not contain"
  | startsWith => "starts with"
  | endsWith => "ends with"
  | .matches => "matches regex"
  | greaterThan => "is greater than"
  | lessThan => "is less than"
  | greaterOrEqual => "is greater or equal to"
  | lessOrEqual => "is less or equal to"
  | isEmpty => "is empty"
  | isNotEmpty => "is not empty"
  | isTrue => "is true"
  | isFalse => "is false"

end Operator

/-- Where an operand takes its value from. -/
inductive Source where
  | variable | environment | property | literal
  deriving DecidableEq, Repr

namespace Source

/-- The name of a source. -/
def name : Source → String
  | .variable => "variable"
  | environment => "environment"
  | property => "property"
  | literal => "literal"

instance : Named Source where
  title := "OperandSource"
  all := [.variable, environment, property, literal]
  name := name

/-- The word for the source in a description. -/
def label : Source → String
  | .variable => "Variable"
  | environment => "Environment"
  | property => "Property"
  | literal => "Value"

end Source

/-- What the result of the conditions means. -/
inductive GuardMode where
  | onlyIf | skipIf
  deriving DecidableEq, Repr

instance : Named GuardMode where
  title := "ConditionMode"
  all := [.onlyIf, .skipIf]
  name
    | .onlyIf => "onlyIf"
    | .skipIf => "skipIf"

/-- How conditions are joined. -/
inductive Logic where
  | all | any
  deriving DecidableEq, Repr

instance : Named Logic where
  title := "ConditionLogic"
  all := [.all, .any]
  name
    | .all => "and"
    | .any => "or"

/-- One side of a comparison. -/
structure Operand where
  source : Source := .literal
  value : String := ""
  deriving DecidableEq, Repr

/-- A comparison. The right operand of a unary operator is kept and ignored. -/
structure Condition where
  left : Operand
  operator : Operator
  right : Operand := {}
  deriving DecidableEq, Repr

/-- Conditions that decide whether a task is executed. -/
structure Guard where
  mode : GuardMode := .onlyIf
  conditions : List Condition := []
  logic : Logic := .all
  deriving DecidableEq, Repr

end BuildGraph
