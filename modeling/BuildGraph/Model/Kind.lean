import BuildGraph.Named

/-!
# Kinds of tasks and of relations between them

A task has one of ten kinds, and two tasks are joined by one of four relations. Only `dependsOn`
orders the tasks of a run; the other three are written to the script and nothing more.
-/

namespace BuildGraph

/-- What a task does. -/
inductive Kind where
  | exec | copy | delete | zip | jar | test | javaCompile | processResources | httpRequest
  | custom
  deriving DecidableEq, Repr

namespace Kind

/-- The name of a kind. -/
def name : Kind → String
  | exec => "Exec"
  | copy => "Copy"
  | delete => "Delete"
  | zip => "Zip"
  | jar => "Jar"
  | test => "Test"
  | javaCompile => "JavaCompile"
  | processResources => "ProcessResources"
  | httpRequest => "HttpRequest"
  | custom => "Custom"

instance : Named Kind where
  title := "TaskKind"
  all := [exec, copy, delete, zip, jar, test, javaCompile, processResources, httpRequest, custom]
  name := name

/-- The task class a script registers for the kind. Custom tasks have none, and an HTTP request is
made by a command. -/
def scriptClass? : Kind → Option String
  | custom => none
  | httpRequest => some "Exec"
  | kind => some kind.name

/-- Whether a script with such a task applies the Java plugin. -/
def needsJavaPlugin : Kind → Bool
  | test | javaCompile | jar => true
  | _ => false

end Kind

/-- How a task is related to another. -/
inductive Relation where
  | dependsOn | mustRunAfter | shouldRunAfter | finalizedBy
  deriving DecidableEq, Repr

namespace Relation

/-- The name of a relation. -/
def name : Relation → String
  | dependsOn => "dependsOn"
  | mustRunAfter => "mustRunAfter"
  | shouldRunAfter => "shouldRunAfter"
  | finalizedBy => "finalizedBy"

instance : Named Relation where
  title := "DependencyType"
  all := [dependsOn, mustRunAfter, shouldRunAfter, finalizedBy]
  name := name

/-- Whether the relation orders the tasks of a run. -/
def isHard : Relation → Bool
  | dependsOn => true
  | _ => false

end Relation

/-- What a copying task does with a second file of one name. -/
inductive Duplicates where
  | include | exclude | warn | fail | inherit
  deriving DecidableEq, Repr

namespace Duplicates

/-- The name of a way to treat duplicates. -/
def name : Duplicates → String
  | .include => "INCLUDE"
  | exclude => "EXCLUDE"
  | warn => "WARN"
  | fail => "FAIL"
  | inherit => "INHERIT"

instance : Named Duplicates where
  title := "DuplicatesStrategy"
  all := [.include, exclude, warn, fail, inherit]
  name := name

end Duplicates

end BuildGraph
