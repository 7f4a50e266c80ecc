import BuildGraph.Graph.Error
import BuildGraph.Model.Node
import BuildGraph.Model.Variable
import BuildGraph.Number.Binary64
import BuildGraph.Text.LowerCase

/-!
# Names and values of variables

Which names a variable may have, and which values fit its type. The empty value fits every type.
-/

namespace BuildGraph

open BuildGraph.Text BuildGraph.Number

/-- Whether a variable may have the name. -/
def isVariableName (name : String) : Bool := isIdentifierLine name.toList

/-- What is wrong with a value of the given type. -/
def ValueType.fault? (type : ValueType) (value : String) : Option ValueFault :=
  if value = "" then none
  else match type with
    | .number =>
      match readBinary64? value with
      | some n => if n.isNumber then none else some .notANumber
      | none => some .notANumber
    | .boolean => if lower value ∈ ["true", "false"] then none else some .notABoolean
    | .string | .path | .list => none

/-- The items of a list value: pieces between commas, trimmed, the blank ones left out. -/
def listItems (value : String) : List String :=
  ((splitAt ',' value).map trim).filter (· ≠ "")

end BuildGraph
