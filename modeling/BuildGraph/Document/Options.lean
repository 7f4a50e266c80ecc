import BuildGraph.Document.Basic
import BuildGraph.Script.Layout

/-!
# Export options as documents

The options of a script from their document. The format of variables is looked at only by a script
that has a use for it, so a word that names no format is an error only there.
-/

namespace BuildGraph

open Document

/-- The fields of the options. -/
def exportOptionFields : List String :=
  ["include_comments", "include_descriptions", "disabled_tasks", "variable_format",
    "project_name", "include_timestamp", "timestamp"]

/-- Refuses a document with a field that the record does not have. -/
def Document.requireKnown (d : Document) (record : String) (known : List String) :
    Except DocumentError Unit :=
  match d.fields.find? fun f => !known.contains f.1 with
  | some f => .error (.unknownField record f.1)
  | none => .ok ()

/-- Whether the expression of a condition mentions a variable. -/
def Condition.mentionsVariable (c : Condition) : Bool :=
  c.left.source == .variable || (!c.operator.isUnary && c.right.source == .variable)

/-- Whether the statement of a guard mentions a variable. -/
def Guard.mentionsVariable (g : Guard) : Bool := g.conditions.any Condition.mentionsVariable

/-- Whether the script of a graph depends on the format of variables. -/
def Graph.needsVariableFormat (g : Graph) (options : ExportOptions) : Bool :=
  !g.userVariables.isEmpty ||
    (Script.emittedNodes g options).any fun n =>
      (n.enabled || options.disabledTasks != .comment) && n.condition.any Guard.mentionsVariable

/-- The format of variables that a value names. One that is not needed may name none. -/
def readVariableFormat (d : Document) (needed : Bool) : Except DocumentError VariableFormat :=
  match (d.asMember : Except DocumentError VariableFormat) with
  | .ok format => .ok format
  | .error e => if needed then .error e else .ok .properties

/-- The options of a graph's script from their document. -/
def ExportOptions.ofDocument (g : Graph) (d : Document) : Except DocumentError ExportOptions := do
  d.requireKnown "ExportOptions" exportOptionFields
  let disabledTasks ← d.memberField "disabled_tasks" DisabledStyle.comment
  let options : ExportOptions := {
    includeComments := d.boolField "include_comments" true
    includeDescriptions := d.boolField "include_descriptions" true
    disabledTasks
    projectName := d.textField? "project_name"
    includeTimestamp := d.boolField "include_timestamp" false
    timestamp := (d.textField? "timestamp").bind Timestamp.read? }
  let variableFormat ← readVariableFormat ((d.field? "variable_format").getD (.text "properties"))
    (g.needsVariableFormat options)
  return { options with variableFormat }

/-- The script of a graph with the options of a document. -/
def Graph.scriptFor (g : Graph) (options : Document) (now : Timestamp) :
    Except DocumentError String :=
  (ExportOptions.ofDocument g options).map fun o => g.script o now

end BuildGraph
