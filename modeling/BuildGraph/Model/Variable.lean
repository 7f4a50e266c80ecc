import BuildGraph.Named

/-!
# Variables

Named values that texts refer to as `${name}` and that guards compare. Three of them are built in;
they describe the project and never change their names.
-/

namespace BuildGraph

/-- The type of a variable's values. -/
inductive ValueType where
  | string | number | boolean | path | list
  deriving DecidableEq, Repr

instance : Named ValueType where
  title := "VariableType"
  all := [.string, .number, .boolean, .path, .list]
  name
    | .string => "string"
    | .number => "number"
    | .boolean => "boolean"
    | .path => "path"
    | .list => "list"

/-- A named value. -/
structure Variable where
  id : String
  name : String
  type : ValueType := .string
  defaultValue : String := ""
  value : Option String := none
  isSystem : Bool := false
  description : Option String := none
  deriving DecidableEq, Repr

/-- The value in force: the explicit one, else the default. -/
def Variable.effectiveValue (v : Variable) : String := v.value.getD v.defaultValue

/-- The built-in variables of every new graph. -/
def systemVariables : List Variable := [
  { id := "sys_projectDir", name := "projectDir", type := .path, defaultValue := ".",
    isSystem := true, description := some "Project root directory" },
  { id := "sys_buildDir", name := "buildDir", type := .path, defaultValue := "build",
    isSystem := true, description := some "Build output directory" },
  { id := "sys_version", name := "version", type := .string, defaultValue := "unspecified",
    isSystem := true, description := some "Project version" }]

end BuildGraph
