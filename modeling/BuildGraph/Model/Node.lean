import BuildGraph.Model.Guard
import BuildGraph.Model.Trigger
import BuildGraph.Text.Split

/-!
# Nodes, edges and groups

A node is a task in the graph. A script knows it by its identifier, which is derived from its
name. An edge joins two nodes by a relation, and a group gathers nodes for display.
-/

namespace BuildGraph

open BuildGraph.Text

/-- Whether the character may stand in an identifier: an ASCII letter, an ASCII digit or an
underscore. -/
def isIdentifierChar (c : Char) : Bool := c.isAlphanum || c == '_'

/-- Whether the character may start an identifier. -/
def isIdentifierStart (c : Char) : Bool := c.isAlpha || c == '_'

/-- Merges each run of underscores into one. -/
def mergeUnderscores : List Char → List Char
  | '_' :: '_' :: rest => mergeUnderscores ('_' :: rest)
  | c :: rest => c :: mergeUnderscores rest
  | [] => []

/-- The script identifier of a name: characters that may not stand in one become underscores, a
leading digit gets an underscore in front, and runs of underscores are merged. -/
def identifierChars (name : List Char) : List Char :=
  let plain := name.map fun c => if isIdentifierChar c then c else '_'
  let started := match plain with
    | c :: _ => if c.isDigit then '_' :: plain else plain
    | [] => plain
  mergeUnderscores started

/-- The script identifier of a name. -/
def toIdentifier (name : String) : String := String.ofList (identifierChars name.toList)

/-- Whether a text is an identifier, where one line feed at the end is overlooked. -/
def isIdentifierLine : List Char → Bool
  | [] => false
  | c :: rest =>
    isIdentifierStart c &&
      ((rest.all isIdentifierChar) || (rest.getLast? == some '\n' &&
        rest.dropLast.all isIdentifierChar))

/-- A task of the graph. -/
structure Node where
  id : String
  name : String
  step : Step := .custom
  group : Option String := none
  description : Option String := none
  enabled : Bool := true
  timeoutMinutes : Option Int := none
  condition : Option Guard := none
  trigger : Option Trigger := none
  deriving DecidableEq

/-- Something wrong with one field of a node. -/
inductive NodeFault where
  | nameMissing
  | nameNotIdentifier (identifier : String)
  | timeoutNotPositive
  | destinationMissing
  | pathsMissing
  | urlMissing
  deriving DecidableEq, Repr

namespace NodeFault

/-- The field that is at fault. -/
def field : NodeFault → String
  | nameMissing | nameNotIdentifier _ => "name"
  | timeoutNotPositive => "timeout_minutes"
  | destinationMissing => "into"
  | pathsMissing => "delete"
  | urlMissing => "url"

/-- The words for a fault. -/
def message : NodeFault → String
  | nameMissing => "Task name is required"
  | nameNotIdentifier identifier =>
    "Task name must be a valid identifier (exported as '" ++ identifier ++ "')"
  | timeoutNotPositive => "Timeout must be a positive number of minutes"
  | destinationMissing => "Copy task requires a destination (into)"
  | pathsMissing => "Delete task requires paths to delete"
  | urlMissing => "HTTP Request task requires a URL"

end NodeFault

namespace Node

/-- The kind of a node. -/
def kind (n : Node) : Kind := n.step.kind

/-- The name of a node in scripts. -/
def identifier (n : Node) : String := toIdentifier n.name

/-- The fault of a step that lacks what it needs. -/
def stepFaults : Step → List NodeFault
  | .copy c | .processResources c => if c.into = "" then [.destinationMissing] else []
  | .delete c => if c.delete.isEmpty then [.pathsMissing] else []
  | .httpRequest c => if c.url = "" then [.urlMissing] else []
  | _ => []

/-- The faults of a node: of its name, of its timeout, of its step. -/
def faults (n : Node) : List NodeFault :=
  (if isBlankText n.name then [.nameMissing]
    else if isIdentifierLine n.name.toList then []
    else [.nameNotIdentifier n.identifier]) ++
  (if n.timeoutMinutes.any (· ≤ 0) then [.timeoutNotPositive] else []) ++
  stepFaults n.step

end Node

/-- A relation between two nodes. -/
structure Edge where
  source : String
  target : String
  relation : Relation := .dependsOn
  deriving DecidableEq, Repr

/-- The text that stands for an edge. -/
def Edge.id (e : Edge) : String := e.source ++ "->" ++ e.target ++ ":" ++ e.relation.name

/-- Nodes gathered for display. -/
structure Group where
  id : String
  name : String
  color : String := "#6366f1"
  collapsed : Bool := false
  description : Option String := none
  members : List String := []
  deriving DecidableEq, Repr

end BuildGraph
