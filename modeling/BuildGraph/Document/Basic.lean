import BuildGraph.Graph.Error
import BuildGraph.Number.Binary64
import BuildGraph.Text.Quoted
import BuildGraph.Named
import BuildGraph.Table

/-!
# Documents

Graphs, guards and settings are exchanged as documents: values built from texts, numbers, lists
and objects. This module holds the type, the access to the fields of an object, and the causes for
which a document is refused.
-/

namespace BuildGraph

/-- A value of a document. -/
inductive Document where
  | null
  | bool (b : Bool)
  | integer (n : Int)
  /-- A number with a point or an exponent. -/
  | decimal (x : Number.Binary64)
  | text (s : String)
  | list (items : List Document)
  | object (fields : List (String × Document))
  deriving Inhabited

/-- Why a document is refused. -/
inductive DocumentError where
  | missingKey (key : String)
  | notAMember (title shown : String)
  | groupLacks (fields : List String)
  | unknownTrigger (shown : String)
  | unknownField (record field : String)
  | unknownArgument (function argument : String)
  | missingArguments (function : String) (arguments : List String)
  | unknownTask (name : String)
  | graph (cause : GraphError)
  deriving DecidableEq, Repr

/-- The words for arguments that are missing: one, two, or more of them. -/
def missingMessage (function : String) (arguments : List String) : String :=
  let shown := arguments.map Text.display
  let count := toString arguments.length
  match shown with
  | [one] => function ++ "() missing 1 required positional argument: " ++ one
  | [one, two] =>
    function ++ "() missing 2 required positional arguments: " ++ one ++ " and " ++ two
  | _ => function ++ "() missing " ++ count ++ " required positional arguments: " ++
      String.intercalate ", " shown.dropLast ++ ", and " ++ (shown.getLast?.getD "")

/-- The words for a refusal. -/
def DocumentError.message : DocumentError → String
  | missingKey key => Text.display key
  | notAMember title shown => shown ++ " is not a valid " ++ title
  | groupLacks fields => missingMessage "TaskGroup.__init__" fields
  | unknownTrigger shown => "Unknown trigger type: " ++ shown
  | unknownField record field =>
    record ++ ".__init__() got an unexpected keyword argument " ++ Text.display field
  | unknownArgument function argument =>
    function ++ "() got an unexpected keyword argument " ++ Text.display argument
  | missingArguments function arguments => missingMessage function arguments
  | unknownTask name => Text.display ("Task not found: " ++ name)
  | graph cause => cause.message

namespace Document

/-- The fields of an object, none for other values. -/
def fields : Document → List (String × Document)
  | object fs => fs
  | _ => []

/-- The value of a field. -/
def field? (d : Document) (key : String) : Option Document :=
  (d.fields.find? fun f => f.1 == key).map Prod.snd

/-- The items of a list, none for other values. -/
def items : Document → List Document
  | list xs => xs
  | _ => []

/-- The items of a field that is a list. -/
def fieldItems (d : Document) (key : String) : List Document :=
  ((d.field? key).map items).getD []

/-- Whether the value is null or an object without fields. -/
def isNothing : Document → Bool
  | null => true
  | object [] => true
  | _ => false

/-- The text of a value, empty for values that are not texts. -/
def asText : Document → String
  | text s => s
  | _ => ""

/-- The text of a value that may be null. -/
def asText? : Document → Option String
  | text s => some s
  | _ => none

/-- The integer of a value that may be null. -/
def asInt? : Document → Option Int
  | integer n => some n
  | _ => none

/-- The texts of a list. -/
def asTexts (d : Document) : List String := d.items.map asText

/-- The texts by name of an object. -/
def asTable (d : Document) : Table String String :=
  Table.ofList (d.fields.map fun f => (f.1, f.2.asText))

/-- The text of a field, or a default when it is missing. -/
def textField (d : Document) (key : String) (default : String) : String :=
  ((d.field? key).map asText).getD default

/-- The text of a field that may be missing or null. -/
def textField? (d : Document) (key : String) : Option String := (d.field? key).bind asText?

/-- The integer of a field that may be missing or null. -/
def intField? (d : Document) (key : String) : Option Int := (d.field? key).bind asInt?

/-- The truth value of a field, or a default when it is missing. -/
def boolField (d : Document) (key : String) (default : Bool) : Bool :=
  match d.field? key with
  | some (bool b) => b
  | some null => false
  | _ => default

/-- The texts of a field, or a default when it is missing. -/
def textsField (d : Document) (key : String) (default : List String) : List String :=
  ((d.field? key).map asTexts).getD default

/-- The texts by name of a field. -/
def tableField (d : Document) (key : String) : Table String String :=
  ((d.field? key).map asTable).getD ∅

/-- The value of a field that must be present. -/
def require (d : Document) (key : String) : Except DocumentError Document :=
  match d.field? key with
  | some value => .ok value
  | none => .error (.missingKey key)

/-- A value as messages show it when a name was expected. -/
def shown : Document → String
  | text s => Text.display s
  | null => "None"
  | bool b => if b then "True" else "False"
  | integer n => toString n
  | decimal x => toString x.toInt
  | list _ => "[]"
  | object _ => "\x7b\x7d"

/-- The member of a closed set that a value names. -/
def asMember {α : Type} [Named α] (d : Document) : Except DocumentError α :=
  match d with
  | text s =>
    match ofName? s with
    | some a => .ok a
    | none => .error (.notAMember (Named.title α) (Text.display s))
  | other => .error (.notAMember (Named.title α) other.shown)

/-- The member of a closed set that a field names, or a default when it is missing. -/
def memberField {α : Type} [Named α] (d : Document) (key : String) (default : α) :
    Except DocumentError α :=
  match d.field? key with
  | some value => value.asMember
  | none => .ok default

/-- A text that may be missing, as a value. -/
def ofText? : Option String → Document
  | some s => text s
  | none => null

/-- An integer that may be missing, as a value. -/
def ofInt? : Option Int → Document
  | some n => integer n
  | none => null

/-- A list of texts as a value. -/
def ofTexts (ss : List String) : Document := list (ss.map text)

/-- Texts by name as a value. -/
def ofTable (t : Table String String) : Document :=
  object (t.entries.map fun e => (e.1, text e.2))

/-- A member of a closed set as a value. -/
def ofMember {α : Type} [Named α] (a : α) : Document := text (nameOf a)

end Document

end BuildGraph
