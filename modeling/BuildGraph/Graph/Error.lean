import BuildGraph.Model.Step

/-!
# Why a change of the graph is refused

Every change of a graph that would break one of its rules is refused with one of these causes.
`GraphError.message` gives the words.
-/

namespace BuildGraph

/-- How a hard edge would close a cycle. -/
inductive CycleCause where
  /-- No more is known than that an edge would close it. -/
  | edge
  /-- A connection was checked and found to close one. -/
  | connection
  /-- A task was switched on that lies on one. -/
  | enabling
  /-- The words of another. -/
  | described (words : String)
  deriving DecidableEq, Repr

/-- What is wrong with a name. -/
inductive NameFault where
  | taskMissing
  | groupMissing
  | groupTooLong
  | variableMalformed (name : String)
  | described (words : String)
  deriving DecidableEq, Repr

/-- What is wrong with a variable's value. -/
inductive ValueFault where
  | notANumber
  | notABoolean
  | described (words : String)
  deriving DecidableEq, Repr

/-- Why a change is refused. -/
inductive GraphError where
  | unknownNode (id : String)
  | duplicateTaskName (name : String)
  | selfLoop
  | duplicateEdge (source target relation : String)
  | cycle (cause : CycleCause) (nodes : List String)
  | missingField (task words : String)
  | invalidName (fault : NameFault)
  | duplicateGroupName (name : String)
  | unknownGroup (id : String)
  | duplicateVariable (name : String)
  | unknownVariable (name : String)
  | invalidValue (name : String) (fault : ValueFault)
  | systemVariable (name action : String)
  | nodeIdTaken (id : String)
  | nodeIdChanged
  | edgeMissing (source target relation : String)
  | groupIdTaken (id : String)
  | variableIdTaken (id : String)
  | wrongConfig (task : String) (kind : Kind) (given : String)
  | described (words : String)
  deriving DecidableEq, Repr

/-- The longest name of a group. -/
def maxGroupNameLength : Nat := 50

/-- The words for a cause of a cycle. -/
def CycleCause.message : CycleCause → String
  | edge => "This connection would create a circular dependency"
  | connection => "This would create a circular dependency"
  | enabling => "Enabling this task would create a circular dependency"
  | described words => words

/-- The words for a fault of a name. -/
def NameFault.message : NameFault → String
  | taskMissing => "Task name is required"
  | groupMissing => "Group name is required"
  | groupTooLong =>
    "Group name must be " ++ toString maxGroupNameLength ++ " characters or less"
  | variableMalformed name => "Invalid variable name: \"" ++ name ++ "\""
  | described words => words

/-- The words for a fault of a value. -/
def ValueFault.message : ValueFault → String
  | notANumber => "Must be a valid number"
  | notABoolean => "Must be true or false"
  | described words => words

/-- The words for a refusal. -/
def GraphError.message : GraphError → String
  | unknownNode id => "Task not found: " ++ id
  | duplicateTaskName name => "Duplicate task name: \"" ++ name ++ "\""
  | selfLoop => "Cannot connect a task to itself"
  | duplicateEdge source target relation =>
    "Dependency already exists: " ++ source ++ " -[" ++ relation ++ "]-> " ++ target
  | cycle cause _ => cause.message
  | missingField task words => "Task \"" ++ task ++ "\": " ++ words
  | invalidName fault => fault.message
  | duplicateGroupName name => "A group named \"" ++ name ++ "\" already exists"
  | unknownGroup id => "Group not found: " ++ id
  | duplicateVariable name => "Variable \"" ++ name ++ "\" already exists"
  | unknownVariable name => "Variable not found: " ++ name
  | invalidValue name fault => "Variable \"" ++ name ++ "\": " ++ fault.message
  | systemVariable name action => "System variable \"" ++ name ++ "\" cannot be " ++ action
  | nodeIdTaken id => "Task id already exists: " ++ id
  | nodeIdChanged => "Task id cannot be changed"
  | edgeMissing source target relation =>
    "Dependency not found: " ++ source ++ " -[" ++ relation ++ "]-> " ++ target
  | groupIdTaken id => "Group id already exists: " ++ id
  | variableIdTaken id => "Variable id already exists: " ++ id
  | wrongConfig task kind given =>
    "Task '" ++ task ++ "' of kind " ++ kind.name ++ " needs " ++
      kind.defaultConfig.recordName ++ ", got " ++ given
  | described words => words

end BuildGraph
