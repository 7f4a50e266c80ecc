import BuildGraph.Script.Cursor

/-!
# Headers of task registrations

A script registers a task by `tasks.register`, by `tasks.create`, or by a delegated `val`. The
header gives the name of the task and the class of it, if one is named.
-/

namespace BuildGraph.Script

open Recognizer

/-- The rest of a class name that packages may qualify: the last name counts. The first argument
bounds the number of names. -/
def qualifiedName : Nat → String → Recognizer String
  | 0, name => find name
  | count + 1, name => fun c =>
    match c.peek 0, c.peek 1 with
    | some point, some t =>
      if point.isOp "." && t.kind == .ident && t.value != "java" && t.value != "class" then
        qualifiedName count t.value c.next.2.next.2
      else .found name c
    | _, _ => .found name c

/-- A class name without the packages that qualify it. -/
def typeName : Recognizer String := do
  let name ← anyIdent
  fun c => qualifiedName c.rest.length name c

/-- A class literal, such as `Copy::class` or `Copy::class.java`. -/
def classLiteral : Recognizer String := do
  let name ← typeName
  op "::"
  ident "class"
  let _ ← optional (do op "."; optional (ident "java"))
  return name

/-- A class name between angle brackets. -/
def typeArgument : Recognizer String := do
  op "<"
  let name ← typeName
  op ">"
  return name

/-- The header of a registration: the name of the task and its class. -/
structure Registration where
  name : String
  className : Option String
  deriving DecidableEq, Repr

/-- A header such as `tasks.register<Copy>("name")` or `tasks.create("name", Copy::class)`. -/
def registerCall : Recognizer Registration := do
  ident "tasks"
  op "."
  let method ← anyIdent
  require (method == "register" || method == "create")
  let className ← optional typeArgument
  let args ← group "("
  match splitArguments args with
  | [[t]] =>
    require (t.kind == .string)
    return ⟨t.value, className⟩
  | [[t], literal] =>
    require (t.kind == .string)
    match className with
    | some name => return ⟨t.value, some name⟩
    | none =>
      let name ← within classLiteral literal
      return ⟨t.value, some name⟩
  | _ => absent

/-- The class in the arguments of a delegated registration. Arguments that name none are left
unread unless a class was named before. -/
def delegatedClass (name : String) (className : Option String) : Recognizer Registration := fun c =>
  match group "(" c with
  | .found args rest =>
    let literal := match classLiteral ⟨args, 0⟩ with
      | .found s _ => if s = "" then none else some s
      | _ => none
    match literal.or className with
    | some s => .found ⟨name, some s⟩ rest
    | none => .found ⟨name, none⟩ c
  | .absent => .found ⟨name, className⟩ c.skip
  | .stopped cause => .stopped cause

/-- A header such as `val name by tasks.registering(Copy::class)`. -/
def delegatedValue : Recognizer Registration := do
  ident "val"
  let name ← anyIdent
  require (name != "")
  ident "by"
  ident "tasks"
  op "."
  let method ← anyIdent
  require (method == "registering" || method == "creating")
  let className ← optional typeArgument
  delegatedClass name className

/-- The header of a registration, in any of its forms. -/
def registration : Recognizer Registration := fun c =>
  match (registerCall <|> delegatedValue) c with
  | .stopped _ => .absent
  | reading => reading

end BuildGraph.Script
