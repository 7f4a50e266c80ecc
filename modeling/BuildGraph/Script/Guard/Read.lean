import BuildGraph.Model.Guard
import BuildGraph.Script.Cursor

/-!
# Reading guards

The body of an `onlyIf` statement is read back to a guard when it is one atom, or atoms joined by
`&&` alone or by `||` alone, possibly negated as a whole. Every expression that is written for a
condition is an atom, and so are a few idioms of hand-written scripts.
-/

namespace BuildGraph.Script

open Recognizer

/-- The forms of an operand between parentheses: a variable with its default, or a value of the
environment that may be absent. -/
def wrappedOperand : Recognizer Operand :=
  (do
    path ["project", "findProperty"]
    let name ← stringIn "("
    op "?."
    ident "toString"
    ops ["(", ")"]
    op "?:"
    let _ ← string
    finished
    return ⟨.variable, name⟩) <|>
  (do
    path ["System", "getenv"]
    let name ← stringIn "("
    op "?:"
    let default ← string
    require (default == "")
    finished
    return ⟨.environment, name⟩)

/-- An operand, given the names of the declared variables. -/
def operand (declared : List String) : Recognizer Operand :=
  (do
    let value ← string
    return ⟨.literal, value⟩) <|>
  (do
    path ["System", "getenv"]
    let name ← stringIn "("
    op "."
    ident "orEmpty"
    ops ["(", ")"]
    return ⟨.environment, name⟩) <|>
  (do
    path ["project", "findProperty"]
    let name ← stringIn "("
    op "?."
    ident "toString"
    ops ["(", ")"]
    op "."
    ident "orEmpty"
    ops ["(", ")"]
    return ⟨.property, name⟩) <|>
  (do
    let inner ← group "("
    within wrappedOperand inner) <|>
  (do
    let t ← token fun t => t.kind == .ident && declared.contains t.value
    return ⟨.variable, t.value⟩)

/-- Tokens that are one operand and nothing else. -/
def wholeOperand (declared : List String) (tokens : List Token) : Recognizer Operand :=
  within (do
    let o ← operand declared
    finished
    return o) tokens

/-- An operand read as a number. -/
def numericOperand (declared : List String) : Recognizer Operand := do
  let inner ← group "("
  within (do
    let o ← operand declared
    op "."
    ident "toDoubleOrNull"
    ops ["(", ")"]
    op "?:"
    path ["Double", "NaN"]
    finished
    return o) inner

/-- A search for a pattern. -/
def patternSearch (declared : List String) : Recognizer Condition := do
  ident "Regex"
  let patternTokens ← group "("
  op "."
  ident "containsMatchIn"
  let subjectTokens ← group "("
  let right ← wholeOperand declared patternTokens
  let left ← wholeOperand declared subjectTokens
  return ⟨left, .matches, right⟩

/-- A search for a pattern, guarded against malformed patterns or not. -/
def patternAtom (declared : List String) : Recognizer Condition :=
  (do
    ident "runCatching"
    let inner ← group "\x7b"
    op "."
    ident "getOrDefault"
    op "("
    ident "false"
    op ")"
    within (do
      let c ← patternSearch declared
      finished
      return c) inner) <|>
  patternSearch declared

/-- Tests for the presence of a property or of a value of the environment. A stray `!=` before
`==` is overlooked. -/
def presenceAtom : Recognizer Condition :=
  (do
    let negated ← optional (op "!")
    path ["project", "hasProperty"]
    let name ← stringIn "("
    return ⟨⟨.property, name⟩, if negated.isSome then .isEmpty else .isNotEmpty, {}⟩) <|>
  (do
    path ["System", "getenv"]
    let name ← stringIn "("
    (do
      op "!="
      ident "null"
      return ⟨⟨.environment, name⟩, .isNotEmpty, {}⟩) <|>
    (do
      let _ ← optional (op "!=")
      op "=="
      ident "null"
      return ⟨⟨.environment, name⟩, .isEmpty, {}⟩))

/-- A text that does not contain another. -/
def negatedContainsAtom (declared : List String) : Recognizer Condition := do
  op "!"
  let left ← operand declared
  op "."
  ident "contains"
  let inner ← group "("
  let right ← wholeOperand declared inner
  return ⟨left, .notContains, right⟩

/-- The numeric operator that an operator token stands for. -/
def comparison? (t : Token) : Option Operator :=
  if t.isOp ">" then some .greaterThan
  else if t.isOp "<" then some .lessThan
  else if t.isOp ">=" then some .greaterOrEqual
  else if t.isOp "<=" then some .lessOrEqual
  else none

/-- A comparison of numbers. -/
def numericAtom (declared : List String) : Recognizer Condition := do
  let left ← numericOperand declared
  let t ← token fun _ => true
  let operator ← ofOption (comparison? t)
  let right ← numericOperand declared
  return ⟨left, operator, right⟩

/-- The operator of a method that looks at two texts. -/
def textMethod? (method : String) : Option Operator :=
  if method = "contains" then some .contains
  else if method = "startsWith" then some .startsWith
  else if method = "endsWith" then some .endsWith
  else none

/-- The operator of a test for the members of a list. -/
def truthOperator? (values : List String) : Option Operator :=
  if values = ["true", "1"] then some .isTrue
  else if values = ["false", "0", ""] then some .isFalse
  else none

/-- What follows an operand and a point. -/
def methodAtom (declared : List String) (left : Operand) : Recognizer Condition := do
  let method ← anyIdent
  if method = "isBlank" then
    ops ["(", ")"]
    return ⟨left, .isEmpty, {}⟩
  else if method = "isNotBlank" then
    ops ["(", ")"]
    return ⟨left, .isNotEmpty, {}⟩
  else if method = "lowercase" then
    ops ["(", ")"]
    ident "in"
    ident "listOf"
    let inner ← group "("
    let values ← ofOption (stringArguments? inner)
    let operator ← ofOption (truthOperator? values)
    return ⟨left, operator, {}⟩
  else
    let operator ← ofOption (textMethod? method)
    let inner ← group "("
    let right ← wholeOperand declared inner
    return ⟨left, operator, right⟩

/-- A comparison of texts, or a test of one text. -/
def textAtom (declared : List String) : Recognizer Condition := do
  let left ← operand declared
  (do
    op "=="
    let right ← operand declared
    return ⟨left, .equals, right⟩) <|>
  (do
    op "!="
    let right ← operand declared
    return ⟨left, .notEquals, right⟩) <|>
  (do
    op "."
    methodAtom declared left)

/-- The readings of an atom, in the order in which they are tried. -/
def atomReadings (declared : List String) : List (Recognizer Condition) :=
  [patternAtom declared, presenceAtom, negatedContainsAtom declared, numericAtom declared,
    textAtom declared]

/-- The condition that some tokens state, if one of the readings reads all of them. -/
def atom? (declared : List String) (tokens : List Token) : Option Condition :=
  (atomReadings declared).findSome? fun reading =>
    match reading ⟨tokens, 0⟩ with
    | .found c rest => if rest.atEnd then some c else none
    | _ => none

/-- Takes a negation of the whole off: the mode of the guard and the tokens of its expression. -/
def guardMode (tokens : List Token) : GuardMode × List Token :=
  if 3 ≤ tokens.length && tokens.head?.any (·.isOp "!") && tokens[1]?.any (·.isOp "(") &&
      tokens.getLast?.any (·.isOp ")") then
    let inner := stripParens (tokens.drop 1)
    if inner.length < tokens.length - 1 then (.skipIf, inner) else (.onlyIf, tokens)
  else (.onlyIf, tokens)

/-- The guard that the body of an `onlyIf` statement states. -/
def guard? (declared : List String) (tokens : List Token) : Option Guard :=
  let (mode, tokens) := guardMode (stripParens tokens)
  let conjuncts := splitTopLevel "&&" tokens
  let disjuncts := splitTopLevel "||" tokens
  if 1 < conjuncts.length && 1 < disjuncts.length then none
  else
    let (logic, parts) : Logic × List (List Token) :=
      if 1 < disjuncts.length then (.any, disjuncts) else (.all, conjuncts)
    (parts.mapM fun part => atom? declared (stripParens part)).map fun conditions =>
      { mode, conditions, logic }

end BuildGraph.Script
