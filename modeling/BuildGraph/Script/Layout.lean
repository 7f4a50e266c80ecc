import BuildGraph.Graph.Basic
import BuildGraph.Model.Trigger
import BuildGraph.Script.Curl
import BuildGraph.Script.Guard.Write
import BuildGraph.Time.Timestamp

/-!
# Writing build scripts

A graph becomes a build script: a header, the plugins, the declarations of variables, and one block
for each task in the order of a run, with the disabled tasks last. The text depends on the graph and
the options alone.

Main definitions: `ExportOptions`, `taskBlock`, `Graph.script`.
-/

namespace BuildGraph

open BuildGraph.Text

/-- What becomes of disabled tasks in a script. -/
inductive DisabledStyle where
  /-- A comment tells that they are there. -/
  | comment
  /-- They are left out. -/
  | omit
  /-- They are written and switched off. -/
  | emit
  deriving DecidableEq, Repr

instance : Named DisabledStyle where
  title := "DisabledTaskStyle"
  all := [.comment, .omit, .emit]
  name
    | .comment => "comment"
    | .omit => "omit"
    | .emit => "emit"

/-- How a script is written. -/
structure ExportOptions where
  includeComments : Bool := true
  includeDescriptions : Bool := true
  disabledTasks : DisabledStyle := .comment
  variableFormat : VariableFormat := .properties
  projectName : Option String := none
  includeTimestamp : Bool := false
  timestamp : Option Timestamp := none
  deriving DecidableEq, Repr

namespace Script

/-- The indentation inside a block. -/
def indent : String := "    "

/-- A line that separates sections. -/
def banner : String := "// " ++ String.ofList (List.replicate 77 '=')

/-- The comment before the stub of a disabled task. -/
def disabledMarker : String := "Task disabled in visual editor"

/-- The line of a text that is there and not empty. -/
def optionalLine (write : String → String) (value : Option String) : List String :=
  match value with
  | some s => if s = "" then [] else [write s]
  | none => []

/-- The call of a method with literals, unless there are none. -/
def callLine (method : String) (values : List String) : List String :=
  if values.isEmpty then [] else [method ++ "(" ++ quoteAll values ++ ")"]

/-- One call of a method for each text. -/
def eachCall (method : String) (values : List String) : List String :=
  values.map fun v => method ++ "(" ++ quote v ++ ")"

/-- The line of a truth value that differs from what holds anyway. -/
def flagLine (line : String) (present : Bool) : List String := if present then [line] else []

/-- The line of an integer that is set. -/
def integerLine (property : String) (value : Option Int) : List String :=
  match value with
  | some n => [property ++ " = " ++ toString n]
  | none => []

/-- The line of the way to treat duplicates. -/
def duplicatesLine (value : Option Duplicates) : List String :=
  match value with
  | some d => ["duplicatesStrategy = DuplicatesStrategy." ++ d.name]
  | none => []

/-- The lines of a command. -/
def execLines (c : ExecConfig) : List String :=
  callLine "commandLine" c.commandLine ++
  optionalLine (fun s => "workingDir = file(" ++ quote s ++ ")") c.workingDir ++
  callLine "args" c.args ++
  c.environment.entries.map (fun e =>
    "environment(" ++ quote e.1 ++ ", " ++ quote e.2 ++ ")") ++
  flagLine "isIgnoreExitValue = true" c.ignoreExitValue

/-- The lines of a copy. -/
def copyLines (c : CopyConfig) : List String :=
  eachCall "from" c.fromPaths ++
  (if c.into = "" then [] else ["into(" ++ quote c.into ++ ")"]) ++
  eachCall "include" c.includes ++
  eachCall "exclude" c.excludes ++
  duplicatesLine c.duplicates

/-- The lines of a deletion. -/
def deleteLines (c : DeleteConfig) : List String :=
  callLine "delete" c.delete ++ flagLine "followSymlinks = true" c.followSymlinks

/-- The lines of an archive. -/
def archiveLines (c : ArchiveConfig) : List String :=
  eachCall "from" c.fromPaths ++
  optionalLine (fun s => "archiveFileName = " ++ quote s) c.archiveFileName ++
  optionalLine (fun s =>
    "destinationDirectory = layout.projectDirectory.dir(" ++ quote s ++ ")")
    c.destinationDirectory ++
  eachCall "include" c.includes ++
  eachCall "exclude" c.excludes ++
  duplicatesLine c.duplicates ++
  flagLine "isPreserveFileTimestamps = false" (!c.preserveFileTimestamps)

/-- The lines of a test run. -/
def testLines (c : TestConfig) : List String :=
  eachCall "include" c.includes ++
  eachCall "exclude" c.excludes ++
  integerLine "maxParallelForks" c.maxParallelForks ++
  integerLine "forkEvery" c.forkEvery ++
  flagLine "failFast = true" c.failFast ++
  flagLine "ignoreFailures = true" c.ignoreFailures ++
  callLine "jvmArgs" c.jvmArgs

/-- The lines of the compiler options. -/
def compilerLines (c : JavaCompileConfig) : List String :=
  optionalLine (fun s => "encoding = " ++ quote s) c.encoding ++
  (if c.compilerArgs.isEmpty then []
    else ["compilerArgs.addAll(listOf(" ++ quoteAll c.compilerArgs ++ "))"]) ++
  flagLine "isDeprecation = true" c.deprecation ++
  flagLine "isWarnings = false" (!c.warnings)

/-- The lines of a compilation. -/
def javaCompileLines (c : JavaCompileConfig) : List String :=
  optionalLine (fun s => "sourceCompatibility = " ++ quote s) c.sourceCompatibility ++
  optionalLine (fun s => "targetCompatibility = " ++ quote s) c.targetCompatibility ++
  (let options := compilerLines c
    if options.isEmpty then []
    else "options.apply \x7b" :: (options.map (indent ++ ·) ++ ["\x7d"]))

/-- The lines of an HTTP request. -/
def httpLines (comments : Bool) (c : HttpConfig) : List String :=
  flagLine "// HTTP Request (using curl)" comments ++
    ["commandLine(" ++ quoteAll ("curl" :: c.curlArguments) ++ ")"]

/-- The lines of what a task does, without indentation. -/
def stepLines (comments : Bool) : Step → List String
  | .exec c => execLines c
  | .copy c | .processResources c => copyLines c
  | .delete c => deleteLines c
  | .zip c | .jar c => archiveLines c
  | .test c => testLines c
  | .javaCompile c => javaCompileLines c
  | .httpRequest c => httpLines comments c
  | .custom => []

/-- The header of a task's registration. -/
def registrationHeader (n : Node) : String :=
  match n.kind.scriptClass? with
  | none => "tasks.register(" ++ quote n.identifier ++ ")"
  | some c => "tasks.register<" ++ c ++ ">(" ++ quote n.identifier ++ ")"

/-- Puts a blank between the characters that would end a block comment. -/
def breakCommentEnds : List Char → List Char
  | '*' :: '/' :: rest => '*' :: ' ' :: '/' :: breakCommentEnds rest
  | c :: rest => c :: breakCommentEnds rest
  | [] => []

/-- A description as a comment above a block. -/
def descriptionComment (description : String) : List String :=
  let inner := lines (String.ofList (breakCommentEnds description.toList))
  "/**" :: ((if inner.isEmpty then [""] else inner).map fun l => trimRight (" * " ++ l)) ++
    [" */"]

/-- The relation lines of a node: what it depends on or runs after, then what finishes it. Edges to
tasks that the script does not register are left out. -/
def relationLines (g : Graph) (registered : List String) (n : Node) : List String :=
  let identifier (id : String) : String :=
    ((g.nodes.reverse.find? fun m => m.id == id).map Node.identifier).getD ""
  ((g.incoming n.id none).filter fun e =>
      e.relation != .finalizedBy && registered.contains e.source).map (fun e =>
    e.relation.name ++ "(" ++ quote (identifier e.source) ++ ")") ++
  ((g.outgoing n.id (some .finalizedBy)).filter fun e => registered.contains e.target).map
    fun e => "finalizedBy(" ++ quote (identifier e.target) ++ ")"

/-- The lines inside the block of a task, without indentation. -/
def bodyLines (g : Graph) (registered : List String) (options : ExportOptions) (n : Node) :
    List String :=
  optionalLine (fun s => "group = " ++ quote s) n.group ++
  optionalLine (fun s => "description = " ++ quote s) n.description ++
  flagLine "enabled = false" (!n.enabled) ++
  relationLines g registered n ++
  stepLines options.includeComments n.step ++
  ((n.condition.bind (guardStatement? g.vars options.variableFormat)).toList) ++
  (match n.timeoutMinutes with
    | some m => if m = 0 then [] else ["timeout.set(Duration.ofMinutes(" ++ toString m ++ "))"]
    | none => [])

/-- The lines for one task: its description, its block or its stub, and a blank line. -/
def taskBlock (g : Graph) (registered : List String) (options : ExportOptions) (n : Node) :
    List String :=
  (if options.includeDescriptions then
    match n.description with
    | some d => if d = "" then [] else descriptionComment d
    | none => []
    else []) ++
  if !n.enabled && options.disabledTasks = .comment then
    ["// " ++ disabledMarker, "// " ++ registrationHeader n ++ " \x7b ... \x7d", ""]
  else
    (registrationHeader n ++ " \x7b") ::
      ((bodyLines g registered options n).map (indent ++ ·) ++ ["\x7d", ""])

/-- The tasks of a script in order: the enabled ones in the order of a run, then the disabled ones
unless they are left out. -/
def emittedNodes (g : Graph) (options : ExportOptions) : List Node :=
  (g.executionOrder none).filterMap (fun id => g.nodes.reverse.find? fun n => n.id == id) ++
  if options.disabledTasks = .omit then [] else g.nodes.filter (!·.enabled)

/-- The ids of the tasks that a script registers. -/
def registeredIds (options : ExportOptions) (nodes : List Node) : List String :=
  (nodes.filter fun n => n.enabled || options.disabledTasks = .emit).map Node.id

/-- The comment at the head of a script. `now` is the time of writing, used when the options ask for
a time and give none. -/
def headerLines (options : ExportOptions) (now : Timestamp) : List String :=
  if options.includeComments then
    ["/**", " * Generated by Gradle Flow Visual Editor"] ++
    (if options.includeTimestamp then
      [" * Generated on: " ++ (options.timestamp.getD now).render] else []) ++
    optionalLine (" * Project: " ++ ·) options.projectName ++
    [" */", ""]
  else []

/-- The lines that apply plugins. -/
def pluginLines (options : ExportOptions) (nodes : List Node) : List String :=
  flagLine "// Apply necessary plugins" options.includeComments ++
  ["plugins \x7b", indent ++ "base"] ++
  flagLine (indent ++ "java") (nodes.any fun n => n.kind.needsJavaPlugin) ++
  ["\x7d", ""]

/-- The declaration of a variable. -/
def variableLine (v : Variable) : String :=
  "val " ++ v.name ++ ": String = project.findProperty(" ++ quote v.name ++
    ")?.toString() ?: " ++ quote v.defaultValue

/-- The lines that declare variables. -/
def variableLines (options : ExportOptions) (vars : List Variable) : List String :=
  if vars.isEmpty || options.variableFormat = .inline then []
  else
    flagLine "// Project properties (can be overridden via gradle.properties or -P flags)"
      options.includeComments ++
    vars.map variableLine ++ [""]

/-- The comment before the tasks. -/
def sectionLines (options : ExportOptions) : List String :=
  if options.includeComments then [banner, "// Task Definitions", banner, ""] else []

/-- The lines of a script. -/
def scriptLines (g : Graph) (options : ExportOptions) (now : Timestamp) : List String :=
  let nodes := emittedNodes g options
  let registered := registeredIds options nodes
  headerLines options now ++ ["import java.time.Duration", ""] ++ pluginLines options nodes ++
    variableLines options g.userVariables ++ sectionLines options ++
    nodes.flatMap (taskBlock g registered options)

end Script

/-- The script of a graph. It ends with one line break. -/
def Graph.script (g : Graph) (options : ExportOptions) (now : Timestamp) : String :=
  trimRightOf ['\n'] (String.intercalate "\n" (Script.scriptLines g options now)) ++ "\n"

end BuildGraph
