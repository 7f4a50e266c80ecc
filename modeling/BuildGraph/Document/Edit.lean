import BuildGraph.Document.Decode
import BuildGraph.Document.Options
import BuildGraph.Graph.Builder

/-!
# Changes as documents

A change of a node, or a step of a builder, from the document of its arguments.
-/

namespace BuildGraph

open Document

/-- The fields of a node. -/
def nodeFields : List String :=
  ["id", "name", "kind", "config", "group", "description", "enabled", "timeout_minutes",
    "condition", "trigger"]

/-- The value of a field that is there and not null. -/
def Document.given? (d : Document) (key : String) : Option Document :=
  match d.field? key with
  | some .null => none
  | value => value

/-- The settings that a change gives, read for the kind that it names for them, else for the new
kind, else for the present one. -/
def readChangedConfig (g : Graph) (id : String) (d : Document) :
    Except DocumentError (Option Config) :=
  match d.field? "config" with
  | none => .ok none
  | some config => do
    let kind : Kind ← match (d.given? "config_kind").or (d.given? "kind") with
      | some word => word.asMember
      | none => (g.getNode id).mapError .graph |>.map Node.kind
    return some (← Step.ofDocument kind config).config

/-- The kind that a change gives. -/
def readChangedKind (d : Document) : Except DocumentError (Option Kind) :=
  match d.field? "kind" with
  | none => .ok none
  | some word => word.asMember.map some

/-- Changes a node as a document says. -/
def Graph.updateNodeBy (g : Graph) (id : String) (d : Document) : Except DocumentError Graph := do
  let config ← readChangedConfig g id d
  let condition ← (d.field? "condition").mapM Guard.ofDocument?
  let trigger ← (d.field? "trigger").mapM Trigger.ofDocument?
  let newId := (d.field? "id").map asText
  if newId.any (· ≠ id) then throw (.graph .nodeIdChanged)
  let _ ← (g.getNode id).mapError .graph
  if config.isNone then
    let _ ← readChangedKind d
  d.requireKnown "TaskNode" ("config_kind" :: nodeFields)
  let kind ← readChangedKind d
  attempt (g.updateNode id {
    id := newId
    name := (d.field? "name").map asText
    kind, config
    group := (d.field? "group").map asText?
    description := (d.field? "description").map asText?
    enabled := if (d.field? "enabled").isSome then some (d.boolField "enabled" true) else none
    timeoutMinutes := (d.field? "timeout_minutes").map asInt?
    condition, trigger })

/-- The change of a name with a list of arguments, if there is one. A relation that is not given is
the hard one. -/
def Graph.change? (g : Graph) (name : String) (arguments : List Document) :
    Option (Except DocumentError Graph) :=
  let given (i : Nat) : Document := arguments[i]?.getD .null
  let word (i : Nat) : String := (given i).asText
  let relation (i : Nat) : Except DocumentError Relation :=
    match arguments[i]? with
    | some d => d.asMember
    | none => .ok .dependsOn
  match name with
  | "add_node" => some do attempt (g.addNode (← Node.ofDocument (given 0)))
  | "update_node" => some (g.updateNodeBy (word 0) (given 1))
  | "remove_node" => some (attempt (g.removeNode (word 0)))
  | "add_edge" => some do attempt (g.addEdge (word 0) (word 1) (← relation 2))
  | "remove_edge" => some do attempt (g.removeEdge (word 0) (word 1) (← relation 2))
  | "update_edge_kind" => some do
    let removed ← attempt (g.removeEdge (word 0) (word 1) (← relation 2))
    attempt (removed.addEdge (word 0) (word 1) (← relation 3))
  | "add_group" => some do attempt (g.addGroup (← Group.ofDocument (given 0)))
  | "rename_group" => some (attempt (g.renameGroup (word 0) (word 1)))
  | "remove_group" => some (attempt (g.removeGroup (word 0)))
  | "assign_to_group" => some (attempt (g.assignToGroup (word 0) (given 1).asTexts))
  | "remove_from_group" => some (attempt (g.removeFromGroup (word 0) (given 1).asTexts))
  | "add_variable" => some do attempt (g.addVariable (← Variable.ofDocument (given 0)))
  | "update_variable_value" => some (attempt (g.updateVariableValue (word 0) (given 1).asText?))
  | "rename_variable" => some (attempt (g.renameVariable (word 0) (word 1)))
  | "remove_variable" => some (attempt (g.removeVariable (word 0)))
  | _ => none

/-- A refusal of a builder, as a refusal of a document. -/
def BuilderError.asDocumentError : BuilderError → DocumentError
  | unknownTask name => .unknownTask name
  | graph cause => .graph cause

/-- What a step leaves behind, and whether it was refused. -/
abbrev Builder.Step := Builder × Except DocumentError Unit

/-- The result of a step whose arguments could be read. -/
def Builder.finish (r : Builder.Result) : Builder.Step :=
  (r.1, r.2.mapError BuilderError.asDocumentError)

/-- The arguments of a step: the ones it needs and the ones it may have. -/
structure Arguments where
  needed : List String
  further : List String := []

/-- The arguments of the step of a name. -/
def builderArguments (method : String) : Arguments :=
  if method = "add_task" then
    ⟨["name"], ["kind", "config", "config_kind", "depends_on", "group", "description", "enabled",
      "timeout_minutes", "condition", "trigger"]⟩
  else if method = "connect" then ⟨["source", "target"], ["kind"]⟩
  else if method = "depends_on" then ⟨["name", "upstream"], []⟩
  else if method = "must_run_after" || method = "should_run_after" then ⟨["name", "other"], []⟩
  else if method = "finalized_by" then ⟨["name", "finalizer"], []⟩
  else if method = "add_group" then ⟨["name"], ["members", "color", "description"]⟩
  else ⟨["name"], ["default_value", "type", "value", "description"]⟩

/-- Refuses arguments that the step does not have, then arguments that are missing. -/
def checkArguments (method : String) (d : Document) : Except DocumentError Unit := do
  let arguments := builderArguments method
  match d.fields.find? fun f => !(arguments.needed ++ arguments.further).contains f.1 with
  | some f => throw (.unknownArgument ("GraphBuilder." ++ method) f.1)
  | none => pure ()
  match arguments.needed.filter fun a => (d.field? a).isNone with
  | [] => return
  | missing => throw (.missingArguments ("GraphBuilder." ++ method) missing)

/-- The settings, the guard and the trigger of a task to be added. -/
def readTaskParts (d : Document) :
    Except DocumentError (Option Config × Option Guard × Option Trigger) := do
  let config ← match d.field? "config" with
    | none | some .null => pure none
    | some config =>
      let kind : Kind ← match (d.given? "config_kind").or (d.given? "kind") with
        | some word => word.asMember
        | none => pure .custom
      pure (some (← Step.ofDocument kind config).config)
  let condition ← Guard.ofDocument? ((d.field? "condition").getD .null)
  let trigger ← Trigger.ofDocument? ((d.field? "trigger").getD .null)
  return (config, condition, trigger)

namespace Builder

/-- Adds a task as a document says. An unknown kind is noticed after an id was issued. -/
def addTaskBy (b : Builder) (d : Document) : Builder.Step :=
  match readTaskParts d with
  | .error e => (b, .error e)
  | .ok (config, condition, trigger) =>
    match checkArguments "add_task" d with
    | .error e => (b, .error e)
    | .ok () =>
      match d.memberField "kind" Kind.custom with
      | .error e => ((b.issue "task").2, .error e)
      | .ok kind => finish (b.addTask {
          name := d.textField "name" "", kind, config
          dependsOn := d.textsField "depends_on" []
          group := d.textField? "group"
          description := d.textField? "description"
          enabled := d.boolField "enabled" true
          timeoutMinutes := d.intField? "timeout_minutes"
          condition, trigger })

/-- Joins two tasks as a document says. An unknown relation is noticed after the tasks were looked
up. -/
def connectBy (b : Builder) (d : Document) : Builder.Step :=
  let source := d.textField "source" ""
  let target := d.textField "target" ""
  match d.memberField "kind" Relation.dependsOn with
  | .ok relation => finish (b.connect source target relation)
  | .error e =>
    match b.nodeId source, b.nodeId target with
    | .error cause, _ => (b, .error cause.asDocumentError)
    | .ok _, .error cause => (b, .error cause.asDocumentError)
    | .ok _, .ok _ => (b, .error e)

/-- Declares a variable as a document says. An unknown type is noticed before anything else. -/
def addVariableBy (b : Builder) (d : Document) : Builder.Step :=
  match d.memberField "type" ValueType.string with
  | .error e => (b, .error e)
  | .ok type =>
    match checkArguments "add_variable" d with
    | .error e => (b, .error e)
    | .ok () => finish (b.addVariable (d.textField "name" "") (d.textField "default_value" "")
        type (d.textField? "value") (d.textField? "description"))

/-- Takes the step of a name with the arguments of a document. -/
def perform (b : Builder) (method : String) (d : Document) : Builder.Step :=
  if method = "add_task" then b.addTaskBy d
  else if method = "add_variable" then b.addVariableBy d
  else
    match checkArguments method d with
    | .error e => (b, .error e)
    | .ok () =>
      let name := d.textField "name" ""
      if method = "connect" then b.connectBy d
      else if method = "depends_on" then
        finish (b.connect (d.textField "upstream" "") name .dependsOn)
      else if method = "must_run_after" then
        finish (b.connect (d.textField "other" "") name .mustRunAfter)
      else if method = "should_run_after" then
        finish (b.connect (d.textField "other" "") name .shouldRunAfter)
      else if method = "finalized_by" then
        finish (b.connect name (d.textField "finalizer" "") .finalizedBy)
      else
        finish (b.addGroup name (d.textsField "members" []) (d.textField "color" "#6366f1")
          (d.textField? "description"))

end Builder

end BuildGraph
