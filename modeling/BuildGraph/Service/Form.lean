import BuildGraph.Document.Basic

/-!
# Forms of bodies

A form says how a value of a body must look. Checking a value against a form gives the places where
it does not; a place is a path of field names and positions, joined by points.

Main definitions: `Form`, `Form.record`.
-/

namespace BuildGraph

open BuildGraph.Number

/-- A form of values: from the path of a value and the value to the places at fault. -/
abbrev Form := String → Document → List String

/-- A field of a record. -/
structure FormField where
  name : String
  required : Bool := false
  form : Form

namespace Form

/-- Faults a value as a whole unless it passes a test. -/
def ofTest (test : Document → Bool) : Form := fun path d => if test d then [] else [path]

/-- A text. -/
def text : Form := ofTest fun
  | .text _ => true
  | _ => false

/-- The path of a part. -/
def under (path part : String) : String := path ++ "." ++ part

/-- A value of a form, or null. -/
def orNull (form : Form) : Form := fun path d =>
  match d with
  | .null => []
  | _ => form path d

/-- A list of values of a form. -/
def listOf (form : Form) : Form := fun path d =>
  match d with
  | .list items => items.zipIdx.flatMap fun (item, i) => form (under path (toString i)) item
  | _ => [path]

/-- An object with fields of any name and of one form. -/
def tableOf (form : Form) : Form := fun path d =>
  match d with
  | .object fields => fields.flatMap fun f => form (under path f.1) f.2
  | _ => [path]

/-- An object. -/
def anyObject : Form := tableOf fun _ _ => []

/-- An object with given fields. Others are passed over. -/
def record (fields : List FormField) : Form := fun path d =>
  match d with
  | .object _ => fields.flatMap fun f =>
      match d.field? f.name with
      | some value => f.form (under path f.name) value
      | none => if f.required then [under path f.name] else []
  | _ => [path]

/-- The name of a member of a closed set. -/
def member (α : Type) [Named α] : Form := ofTest fun
  | .text s => ((ofName? s : Option α)).isSome
  | _ => false

/-- The words for true. -/
def trueWords : List String := ["1", "on", "t", "true", "y", "yes"]

/-- The words for false. -/
def falseWords : List String := ["0", "off", "f", "false", "n", "no"]

/-- The truth value that a value may stand for: itself, one or zero, or a word. -/
def truth? : Document → Option Bool
  | .bool b => some b
  | .integer n => if n = 1 then some true else if n = 0 then some false else none
  | .decimal x =>
    if x = .finite 1 then some true else if x = .finite 0 then some false else none
  | .text s =>
    let word := String.ofList (s.toList.map Char.toLower)
    if trueWords.contains word then some true
    else if falseWords.contains word then some false
    else none
  | _ => none

/-- A value that stands for a truth value. -/
def truth : Form := ofTest fun d => (truth? d).isSome

end Form

end BuildGraph
