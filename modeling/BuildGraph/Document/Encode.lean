import BuildGraph.Document.Basic
import BuildGraph.Model.Node
import BuildGraph.Model.Variable
import BuildGraph.Graph.Basic

/-!
# Writing documents

The document of every part of a graph. All fields are written, the empty ones too.
-/

namespace BuildGraph

open Document

/-- The document of settings. -/
def Config.toDocument : Config → Document
  | exec c => object [
      ("command_line", ofTexts c.commandLine), ("working_dir", ofText? c.workingDir),
      ("args", ofTexts c.args), ("environment", ofTable c.environment),
      ("ignore_exit_value", bool c.ignoreExitValue)]
  | copy c => object [
      ("from_paths", ofTexts c.fromPaths), ("into", text c.into),
      ("include", ofTexts c.includes), ("exclude", ofTexts c.excludes),
      ("duplicates_strategy", (c.duplicates.map ofMember).getD null)]
  | delete c => object [
      ("delete", ofTexts c.delete), ("follow_symlinks", bool c.followSymlinks)]
  | archive c => object [
      ("from_paths", ofTexts c.fromPaths), ("archive_file_name", ofText? c.archiveFileName),
      ("destination_directory", ofText? c.destinationDirectory),
      ("include", ofTexts c.includes), ("exclude", ofTexts c.excludes),
      ("duplicates_strategy", (c.duplicates.map ofMember).getD null),
      ("preserve_file_timestamps", bool c.preserveFileTimestamps)]
  | test c => object [
      ("include", ofTexts c.includes), ("exclude", ofTexts c.excludes),
      ("max_parallel_forks", ofInt? c.maxParallelForks), ("fork_every", ofInt? c.forkEvery),
      ("fail_fast", bool c.failFast), ("ignore_failures", bool c.ignoreFailures),
      ("jvm_args", ofTexts c.jvmArgs)]
  | javaCompile c => object [
      ("source_compatibility", ofText? c.sourceCompatibility),
      ("target_compatibility", ofText? c.targetCompatibility),
      ("encoding", ofText? c.encoding), ("compiler_args", ofTexts c.compilerArgs),
      ("deprecation", bool c.deprecation), ("warnings", bool c.warnings)]
  | http c => object [
      ("url", text c.url), ("method", text c.method), ("headers", ofTable c.headers),
      ("body", ofText? c.body), ("content_type", ofText? c.contentType),
      ("timeout_seconds", ofInt? c.timeoutSeconds),
      ("follow_redirects", bool c.followRedirects), ("output_file", ofText? c.outputFile)]
  | custom => object []

/-- The document of a condition. -/
def Condition.toDocument (c : Condition) : Document := object [
  ("left_source", ofMember c.left.source), ("left_value", text c.left.value),
  ("operator", ofMember c.operator),
  ("right_source", ofMember c.right.source), ("right_value", text c.right.value)]

/-- The document of a guard. -/
def Guard.toDocument (g : Guard) : Document := object [
  ("mode", ofMember g.mode), ("conditions", list (g.conditions.map Condition.toDocument)),
  ("logic", ofMember g.logic)]

/-- The document of a trigger. -/
def Trigger.toDocument (t : Trigger) : Document :=
  match t with
  | manual => object [("type", text t.typeName)]
  | fileWatch w => object [
      ("patterns", ofTexts w.patterns), ("directories", ofTexts w.directories),
      ("recursive", bool w.recursive), ("debounce_ms", integer w.debounceMs),
      ("events", ofTexts w.events), ("type", text t.typeName)]
  | schedule s => object [
      ("cron", text s.cron), ("description", ofText? s.description),
      ("timezone", ofText? s.timezone), ("enabled", bool s.enabled), ("type", text t.typeName)]
  | webhook w => object [
      ("endpoint", text w.endpoint), ("methods", ofTexts w.methods),
      ("required_headers", ofTable w.requiredHeaders), ("type", text t.typeName)]

/-- The document of a node. -/
def Node.toDocument (n : Node) : Document := object [
  ("id", text n.id), ("name", text n.name), ("kind", ofMember n.kind),
  ("config", n.step.config.toDocument), ("group", ofText? n.group),
  ("description", ofText? n.description), ("enabled", bool n.enabled),
  ("timeout_minutes", ofInt? n.timeoutMinutes),
  ("condition", (n.condition.map Guard.toDocument).getD null),
  ("trigger", (n.trigger.map Trigger.toDocument).getD null)]

/-- The document of an edge. -/
def Edge.toDocument (e : Edge) : Document := object [
  ("source", text e.source), ("target", text e.target), ("kind", ofMember e.relation)]

/-- The document of a group. -/
def Group.toDocument (g : Group) : Document := object [
  ("id", text g.id), ("name", text g.name), ("color", text g.color),
  ("collapsed", bool g.collapsed), ("description", ofText? g.description),
  ("task_ids", ofTexts g.members)]

/-- The document of a variable. -/
def Variable.toDocument (v : Variable) : Document := object [
  ("id", text v.id), ("name", text v.name), ("type", ofMember v.type),
  ("default_value", text v.defaultValue), ("value", ofText? v.value),
  ("is_system", bool v.isSystem), ("description", ofText? v.description)]

/-- The document of a graph. -/
def Graph.toDocument (g : Graph) : Document := object [
  ("nodes", list (g.nodes.map Node.toDocument)), ("edges", list (g.edges.map Edge.toDocument)),
  ("groups", list (g.groups.map Group.toDocument)),
  ("variables", list (g.vars.map Variable.toDocument))]

end BuildGraph
