import BuildGraph.Model.Guard
import BuildGraph.Model.Variable
import BuildGraph.Script.Literal

/-!
# Writing guards

A guard becomes an `onlyIf` statement. Each operand becomes an expression of a text: a variable is
looked up among the project properties and falls back to its default, and what is absent from the
environment or the properties is the empty text. A `skipIf` guard is negated as a whole.
-/

namespace BuildGraph

/-- What becomes of variables in a script. -/
inductive VariableFormat where
  /-- They are declared, and can be set from outside. -/
  | properties
  /-- Their defaults take their place. -/
  | inline
  deriving DecidableEq, Repr

instance : Named VariableFormat where
  title := "VariableFormat"
  all := [.properties, .inline]
  name
    | .properties => "properties"
    | .inline => "inline"

namespace Script

/-- The variable of a name, the last one if there are several. -/
def variableNamed? (vars : List Variable) (name : String) : Option Variable :=
  vars.reverse.find? fun v => v.name == name

/-- The expression of an operand. -/
def operandText (vars : List Variable) (format : VariableFormat) (o : Operand) : String :=
  match o.source with
  | .variable =>
    let default := ((variableNamed? vars o.value).map Variable.defaultValue).getD ""
    match format with
    | .inline => quote default
    | .properties =>
      "(project.findProperty(" ++ quote o.value ++ ")?.toString() ?: " ++ quote default ++ ")"
  | .environment => "System.getenv(" ++ quote o.value ++ ").orEmpty()"
  | .property => "project.findProperty(" ++ quote o.value ++ ")?.toString().orEmpty()"
  | .literal => quote o.value

/-- An expression read as a number. -/
def numberText (operand : String) : String :=
  "(" ++ operand ++ ".toDoubleOrNull() ?: Double.NaN)"

/-- The expression that compares two expressions. -/
def comparisonText (operator : Operator) (left right : String) : String :=
  match operator with
  | .isEmpty => left ++ ".isBlank()"
  | .isNotEmpty => left ++ ".isNotBlank()"
  | .isTrue => left ++ ".lowercase() in listOf(\"true\", \"1\")"
  | .isFalse => left ++ ".lowercase() in listOf(\"false\", \"0\", \"\")"
  | .equals => left ++ " == " ++ right
  | .notEquals => left ++ " != " ++ right
  | .contains => left ++ ".contains(" ++ right ++ ")"
  | .notContains => "!" ++ left ++ ".contains(" ++ right ++ ")"
  | .startsWith => left ++ ".startsWith(" ++ right ++ ")"
  | .endsWith => left ++ ".endsWith(" ++ right ++ ")"
  | .matches =>
    "runCatching \x7b Regex(" ++ right ++ ").containsMatchIn(" ++ left ++
      ") \x7d.getOrDefault(false)"
  | .greaterThan => numberText left ++ " > " ++ numberText right
  | .lessThan => numberText left ++ " < " ++ numberText right
  | .greaterOrEqual => numberText left ++ " >= " ++ numberText right
  | .lessOrEqual => numberText left ++ " <= " ++ numberText right

/-- The expression of a condition. -/
def conditionText (vars : List Variable) (format : VariableFormat) (c : Condition) : String :=
  comparisonText c.operator (operandText vars format c.left)
    (operandText vars format c.right)

/-- The expression of a guard that has conditions. -/
def guardExpression (vars : List Variable) (format : VariableFormat) (g : Guard) : String :=
  let parts := g.conditions.map (conditionText vars format)
  let joined := match parts with
    | [part] => part
    | _ =>
      String.intercalate (match g.logic with | .all => " && " | .any => " || ")
        (parts.map fun part => "(" ++ part ++ ")")
  match g.mode with
  | .onlyIf => joined
  | .skipIf => "!(" ++ joined ++ ")"

/-- The statement of a guard. A guard without conditions needs none. -/
def guardStatement? (vars : List Variable) (format : VariableFormat) (g : Guard) :
    Option String :=
  if g.conditions.isEmpty then none
  else some ("onlyIf \x7b " ++ guardExpression vars format g ++ " \x7d")

end Script

end BuildGraph
