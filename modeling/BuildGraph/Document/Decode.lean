import BuildGraph.Document.Encode
import BuildGraph.Graph.Change

/-!
# Reading documents

The parts of a graph from their documents. Missing fields take their defaults and unknown fields
are passed over. A graph is built by the changes of `BuildGraph.Graph.Change`, so a document is
refused for the same causes as the changes are.
-/

namespace BuildGraph

open Document

/-- The way to treat duplicates that a document of settings asks for. -/
def readDuplicates (d : Document) : Except DocumentError (Option Duplicates) :=
  match d.field? "duplicates_strategy" with
  | none | some .null => .ok none
  | some value => value.asMember.map some

/-- The settings of an archive from their document. -/
def ArchiveConfig.ofDocument (d : Document) : Except DocumentError ArchiveConfig := do
  let duplicates ← readDuplicates d
  return {
    fromPaths := d.textsField "from_paths" []
    archiveFileName := d.textField? "archive_file_name"
    destinationDirectory := d.textField? "destination_directory"
    includes := d.textsField "include" []
    excludes := d.textsField "exclude" []
    duplicates
    preserveFileTimestamps := d.boolField "preserve_file_timestamps" true }

/-- The settings of a copy from their document. -/
def CopyConfig.ofDocument (d : Document) : Except DocumentError CopyConfig := do
  let duplicates ← readDuplicates d
  return {
    fromPaths := d.textsField "from_paths" []
    into := d.textField "into" ""
    includes := d.textsField "include" []
    excludes := d.textsField "exclude" []
    duplicates }

/-- The settings of a command from their document. -/
def ExecConfig.ofDocument (d : Document) : ExecConfig where
  commandLine := d.textsField "command_line" []
  workingDir := d.textField? "working_dir"
  args := d.textsField "args" []
  environment := d.tableField "environment"
  ignoreExitValue := d.boolField "ignore_exit_value" false

/-- The settings of a deletion from their document. -/
def DeleteConfig.ofDocument (d : Document) : DeleteConfig where
  delete := d.textsField "delete" []
  followSymlinks := d.boolField "follow_symlinks" false

/-- The settings of a test run from their document. -/
def TestConfig.ofDocument (d : Document) : TestConfig where
  includes := d.textsField "include" []
  excludes := d.textsField "exclude" []
  maxParallelForks := d.intField? "max_parallel_forks"
  forkEvery := d.intField? "fork_every"
  failFast := d.boolField "fail_fast" false
  ignoreFailures := d.boolField "ignore_failures" false
  jvmArgs := d.textsField "jvm_args" []

/-- The settings of a compilation from their document. -/
def JavaCompileConfig.ofDocument (d : Document) : JavaCompileConfig where
  sourceCompatibility := d.textField? "source_compatibility"
  targetCompatibility := d.textField? "target_compatibility"
  encoding := d.textField? "encoding"
  compilerArgs := d.textsField "compiler_args" []
  deprecation := d.boolField "deprecation" false
  warnings := d.boolField "warnings" true

/-- The settings of an HTTP request from their document. -/
def HttpConfig.ofDocument (d : Document) : HttpConfig where
  url := d.textField "url" ""
  method := d.textField "method" "GET"
  headers := d.tableField "headers"
  body := d.textField? "body"
  contentType := d.textField? "content_type"
  timeoutSeconds := d.intField? "timeout_seconds"
  followRedirects := d.boolField "follow_redirects" true
  outputFile := d.textField? "output_file"

/-- The step of a kind from the document of its settings. -/
def Step.ofDocument (kind : Kind) (d : Document) : Except DocumentError Step :=
  match kind with
  | .exec => .ok (.exec (ExecConfig.ofDocument d))
  | .copy => (CopyConfig.ofDocument d).map .copy
  | .delete => .ok (.delete (DeleteConfig.ofDocument d))
  | .zip => (ArchiveConfig.ofDocument d).map .zip
  | .jar => (ArchiveConfig.ofDocument d).map .jar
  | .test => .ok (.test (TestConfig.ofDocument d))
  | .javaCompile => .ok (.javaCompile (JavaCompileConfig.ofDocument d))
  | .processResources => (CopyConfig.ofDocument d).map .processResources
  | .httpRequest => .ok (.httpRequest (HttpConfig.ofDocument d))
  | .custom => .ok .custom

/-- A condition from its document. -/
def Condition.ofDocument (d : Document) : Except DocumentError Condition := do
  let leftSource ← (← d.require "left_source").asMember
  let operator ← (← d.require "operator").asMember
  let rightSource ← d.memberField "right_source" Source.literal
  return {
    left := ⟨leftSource, d.textField "left_value" ""⟩
    operator
    right := ⟨rightSource, d.textField "right_value" ""⟩ }

/-- A guard from its document. Null and the empty object are no guard. -/
def Guard.ofDocument? (d : Document) : Except DocumentError (Option Guard) :=
  if d.isNothing then .ok none
  else do
    let conditions ← (d.fieldItems "conditions").mapM Condition.ofDocument
    let mode ← d.memberField "mode" GuardMode.onlyIf
    let logic ← d.memberField "logic" Logic.all
    return some { mode, conditions, logic }

/-- A trigger from its document. Null and the empty object are no trigger. -/
def Trigger.ofDocument? (d : Document) : Except DocumentError (Option Trigger) :=
  if d.isNothing then .ok none
  else match (d.field? "type").getD (.text "manual") with
    | .text "manual" => .ok (some .manual)
    | .text "fileWatch" => .ok (some (.fileWatch {
        patterns := d.textsField "patterns" []
        directories := d.textsField "directories" []
        recursive := d.boolField "recursive" true
        debounceMs := (d.intField? "debounce_ms").getD 500
        events := d.textsField "events" ["create", "modify", "delete"] }))
    | .text "schedule" => .ok (some (.schedule {
        cron := d.textField "cron" ""
        description := d.textField? "description"
        timezone := d.textField? "timezone"
        enabled := d.boolField "enabled" true }))
    | .text "webhook" => .ok (some (.webhook {
        endpoint := d.textField "endpoint" ""
        methods := d.textsField "methods" ["POST"]
        requiredHeaders := d.tableField "required_headers" }))
    | .text other => .error (.unknownTrigger other)
    | other => .error (.unknownTrigger other.shown)

/-- A node from its document. -/
def Node.ofDocument (d : Document) : Except DocumentError Node := do
  let kind ← d.memberField "kind" Kind.custom
  let id ← d.require "id"
  let name ← d.require "name"
  let step ← Step.ofDocument kind ((d.field? "config").getD .null)
  let condition ← Guard.ofDocument? ((d.field? "condition").getD .null)
  let trigger ← Trigger.ofDocument? ((d.field? "trigger").getD .null)
  return {
    id := id.asText, name := name.asText, step
    group := d.textField? "group"
    description := d.textField? "description"
    enabled := d.boolField "enabled" true
    timeoutMinutes := d.intField? "timeout_minutes"
    condition, trigger }

/-- A variable from its document. -/
def Variable.ofDocument (d : Document) : Except DocumentError Variable := do
  let id ← d.require "id"
  let name ← d.require "name"
  let type ← d.memberField "type" ValueType.string
  return {
    id := id.asText, name := name.asText, type
    defaultValue := d.textField "default_value" ""
    value := d.textField? "value"
    isSystem := d.boolField "is_system" false
    description := d.textField? "description" }

/-- A group from its document. -/
def Group.ofDocument (d : Document) : Except DocumentError Group :=
  match d.field? "id", d.field? "name" with
  | some id, some name => .ok {
      id := id.asText, name := name.asText
      color := d.textField "color" "#6366f1"
      collapsed := d.boolField "collapsed" false
      description := d.textField? "description"
      members := d.textsField "task_ids" [] }
  | none, none => .error (.groupLacks ["id", "name"])
  | none, some _ => .error (.groupLacks ["id"])
  | some _, none => .error (.groupLacks ["name"])

/-- The two ends of an edge and the word for its relation. -/
def readEdgeParts (d : Document) : Except DocumentError (String × String × Document) := do
  let source ← d.require "source"
  let target ← d.require "target"
  return (source.asText, target.asText, (d.field? "kind").getD (.text "dependsOn"))

/-- An edge from its document. -/
def Edge.ofDocument (d : Document) : Except DocumentError Edge := do
  let (source, target, kind) ← readEdgeParts d
  let relation ← kind.asMember
  return ⟨source, target, relation⟩

/-- A change of a graph, refused for a cause of its own, as a step in reading a document. -/
def Graph.attempt (result : Except GraphError Graph) : Except DocumentError Graph :=
  result.mapError .graph

/-- Adds a built-in variable unless one of its name was declared before. -/
def Graph.addMissingSystemVariables (g : Graph) : Except GraphError Graph :=
  let declared := g.vars.map Variable.name
  systemVariables.foldlM (fun g v => if v.name ∈ declared then .ok g else g.addVariable v) g

/-- A graph from its document. Variables come first, then the built-in variables that are not
declared, then nodes, edges and groups. -/
def Graph.ofDocument (d : Document) : Except DocumentError Graph := do
  let g ← (d.fieldItems "variables").foldlM
    (fun g item => do attempt (g.addVariable (← Variable.ofDocument item))) Graph.bare
  let g ← attempt g.addMissingSystemVariables
  let g ← (d.fieldItems "nodes").foldlM
    (fun g item => do attempt (g.addNode (← Node.ofDocument item))) g
  let g ← (d.fieldItems "edges").foldlM
    (fun g item => do
      let e ← Edge.ofDocument item
      attempt (g.addEdge e.source e.target e.relation)) g
  (d.fieldItems "groups").foldlM
    (fun g item => do attempt (g.addGroup (← Group.ofDocument item))) g

/-- A graph put together from the documents of its parts, without any check of how they fit. -/
def Graph.ofParts (d : Document) : Except DocumentError Graph := do
  let nodes ← (d.fieldItems "nodes").mapM Node.ofDocument
  let edges ← (d.fieldItems "edges").mapM Edge.ofDocument
  let groups ← (d.fieldItems "groups").mapM Group.ofDocument
  let vars ← (d.fieldItems "variables").mapM Variable.ofDocument
  return { nodes, edges, groups, vars }

end BuildGraph
