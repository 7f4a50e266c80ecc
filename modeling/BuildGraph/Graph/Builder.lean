import BuildGraph.Graph.Change
import BuildGraph.Ids

/-!
# Building graphs step by step

A `Builder` adds tasks, edges, groups and variables to a graph, issues their ids, and knows tasks
by their names. A step that is refused keeps what it did before it was refused.
-/

namespace BuildGraph

/-- A graph under construction. -/
structure Builder where
  graph : Graph
  ids : IdGenerator

/-- Why a step is refused. -/
inductive BuilderError where
  | unknownTask (name : String)
  | graph (cause : GraphError)
  deriving DecidableEq, Repr

/-- A task to be added. -/
structure TaskSpec where
  name : String
  kind : Kind := .custom
  config : Option Config := none
  dependsOn : List String := []
  group : Option String := none
  description : Option String := none
  enabled : Bool := true
  timeoutMinutes : Option Int := none
  condition : Option Guard := none
  trigger : Option Trigger := none

namespace Builder

/-- Starts from a graph, whose ids are taken. -/
def start (ids : IdGenerator) (graph : Graph) : Builder where
  graph
  ids := ids.reserve (graph.nodeIds ++ graph.groups.map Group.id ++ graph.vars.map Variable.id)

/-- Issues an id. -/
def issue (b : Builder) (lead : String) : String × Builder :=
  let (id, ids) := b.ids.next lead
  (id, { b with ids })

/-- The id of the task that a name stands for. -/
def nodeId (b : Builder) (name : String) : Except BuilderError String :=
  match b.graph.nodeNamed? name with
  | some n => .ok n.id
  | none => .error (.unknownTask name)

/-- What a step leaves behind, and whether it was refused. -/
abbrev Result := Builder × Except BuilderError Unit

/-- Puts a changed graph in place, if the change is not refused. -/
def put (b : Builder) (change : Except GraphError Graph) : Result :=
  match change with
  | .ok graph => ({ b with graph }, .ok ())
  | .error cause => (b, .error (.graph cause))

/-- Joins two tasks, given by name. -/
def connect (b : Builder) (source target : String) (relation : Relation) : Result :=
  match b.nodeId source with
  | .error cause => (b, .error cause)
  | .ok sourceId =>
    match b.nodeId target with
    | .error cause => (b, .error cause)
    | .ok targetId => b.put (b.graph.addEdge sourceId targetId relation)

/-- Lets a task depend on others, one after another. -/
def dependOnAll (b : Builder) (name : String) : List String → Result
  | [] => (b, .ok ())
  | upstream :: rest =>
    match b.connect upstream name .dependsOn with
    | (b, .ok ()) => dependOnAll b name rest
    | (b, .error cause) => (b, .error cause)

/-- The node of a task to be added. -/
def nodeOf (id : String) (spec : TaskSpec) : Except GraphError Node :=
  let step := match spec.config with
    | none => some (Step.ofKind spec.kind)
    | some config => Step.ofConfig? spec.kind config
  match step with
  | none =>
    .error (.wrongConfig spec.name spec.kind
      (spec.config.getD spec.kind.defaultConfig).recordName)
  | some step => .ok {
      id, name := spec.name, step, group := spec.group, description := spec.description
      enabled := spec.enabled, timeoutMinutes := spec.timeoutMinutes
      condition := spec.condition, trigger := spec.trigger }

/-- Adds a task and lets it depend on others. -/
def addTask (b : Builder) (spec : TaskSpec) : Result :=
  let (id, b) := b.issue "task"
  match b.put ((nodeOf id spec).bind b.graph.addNode) with
  | (b, .ok ()) => b.dependOnAll spec.name spec.dependsOn
  | refused => refused

/-- Adds a group of tasks, given by name. -/
def addGroup (b : Builder) (name : String) (members : List String) (color : String)
    (description : Option String) : Result :=
  let (id, b) := b.issue "group"
  match members.mapM b.nodeId with
  | .error cause => (b, .error cause)
  | .ok ids => b.put (b.graph.addGroup { id, name, color, description, members := ids })

/-- Declares a variable. -/
def addVariable (b : Builder) (name defaultValue : String) (type : ValueType)
    (value description : Option String) : Result :=
  let (id, b) := b.issue "var"
  b.put (b.graph.addVariable { id, name, type, defaultValue, value, description })

end Builder

/-- The tasks of a typical Java build: cleaning, compiling, testing, packing and a distribution. -/
def sampleTasks : List TaskSpec := [
  { name := "clean", kind := .delete, config := some (.delete { delete := ["build"] }),
    group := some "build", description := some "Deletes the build directory" },
  { name := "compileJava", kind := .javaCompile, dependsOn := ["clean"],
    group := some "build", description := some "Compiles main Java source" },
  { name := "processResources", kind := .processResources,
    config := some (.copy {
      fromPaths := ["src/main/resources"], into := "build/resources/main" }),
    dependsOn := ["clean"], group := some "build",
    description := some "Processes main resources" },
  { name := "classes", dependsOn := ["compileJava", "processResources"],
    group := some "build", description := some "Assembles main classes" },
  { name := "compileTestJava", kind := .javaCompile, dependsOn := ["classes"],
    group := some "build", description := some "Compiles test Java source" },
  { name := "processTestResources", kind := .processResources,
    config := some (.copy {
      fromPaths := ["src/test/resources"], into := "build/resources/test" }),
    dependsOn := ["classes"], group := some "build",
    description := some "Processes test resources" },
  { name := "testClasses", dependsOn := ["compileTestJava", "processTestResources"],
    group := some "build", description := some "Assembles test classes" },
  { name := "test", kind := .test, dependsOn := ["testClasses"],
    group := some "verification", description := some "Runs the unit tests" },
  { name := "jar", kind := .jar, dependsOn := ["classes"],
    group := some "build", description := some "Assembles a jar archive" },
  { name := "assemble", dependsOn := ["jar"],
    group := some "build", description := some "Assembles the outputs of this project" },
  { name := "check", dependsOn := ["test"],
    group := some "verification", description := some "Runs all checks" },
  { name := "build", dependsOn := ["assemble", "check"],
    group := some "build", description := some "Assembles and tests this project" },
  { name := "runScript", kind := .exec,
    config := some (.exec { commandLine := ["sh", "scripts/run.sh"] }),
    dependsOn := ["processResources"], group := some "application",
    description := some "Runs a shell script" },
  { name := "copyAssets", kind := .copy,
    config := some (.copy { fromPaths := ["src/main/assets"], into := "build/assets" }),
    dependsOn := ["jar"], group := some "build", description := some "Copies static assets" },
  { name := "packageDist", kind := .zip,
    config := some (.archive {
      fromPaths := ["build/libs", "build/assets"], archiveFileName := some "dist.zip" }),
    dependsOn := ["copyAssets", "assemble"], group := some "distribution",
    description := some "Creates distribution archive" }]

/-- A typical Java build. -/
def Graph.sample : Graph :=
  (sampleTasks.foldl (fun b spec => (b.addTask spec).1) (Builder.start {} Graph.empty)).graph

end BuildGraph
