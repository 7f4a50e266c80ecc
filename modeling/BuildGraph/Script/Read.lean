import BuildGraph.Graph.Change
import BuildGraph.Ids
import BuildGraph.Script.Block
import BuildGraph.Script.Layout

/-!
# Reading build scripts

A script is read back to a graph. Registrations, the stubs of disabled tasks and declarations of
variables are recognized, other statements are passed over. A registration that cannot be read is
an error and other findings are warnings; reading goes on after both. Only a number that looks like
an integer and is none stops the reading.

Main definitions: `ScriptReading`, `readScript`.
-/

namespace BuildGraph

open Script BuildGraph.Number

/-- A registration that did not become a task. -/
structure BlockError where
  task : String
  line : Nat
  cause : String
  deriving DecidableEq, Repr

/-- A finding about one task and one line, either of which may be unknown. -/
def blockMessage (words : String) (task : Option String) (line : Option Int) : String :=
  (match task with
    | some t => if t = "" then "" else "Task \"" ++ t ++ "\": "
    | none => "") ++ words ++
  (match line with
    | some n => if n = 0 then "" else " (line " ++ toString n ++ ")"
    | none => "")

/-- The words for an error. -/
def BlockError.message (e : BlockError) : String :=
  blockMessage e.cause (some e.task) (some (e.line : Int))

/-- What is remarked while a script is read. -/
inductive ScriptWarning where
  | lexical (line : Nat) (fault : LexicalFault)
  | body (task : String) (warning : BodyWarning)
  | variableIgnored (name : String) (cause : GraphError)
  | unknownTask (task : String) (relation : Relation) (reference : String)
  | relationIgnored (task : String) (relation : Relation) (reference : String) (cause : GraphError)
  | noTasks
  deriving DecidableEq, Repr

/-- The words for a remark. -/
def ScriptWarning.message : ScriptWarning → String
  | lexical line fault => "Line " ++ toString line ++ ": " ++ fault.message
  | body task warning => warning.message task
  | variableIgnored name cause => "Variable \"" ++ name ++ "\" ignored: " ++ cause.message
  | unknownTask task relation reference =>
    "Task \"" ++ task ++ "\": " ++ relation.name ++ " references unknown task \"" ++ reference ++
      "\""
  | relationIgnored task relation reference cause =>
    "Task \"" ++ task ++ "\": " ++ relation.name ++ "(\"" ++ reference ++ "\") ignored: " ++
      cause.message
  | noTasks => "No tasks found in the build script. " ++
      "Make sure tasks are defined using tasks.register<Type>(\"name\") \x7b ... \x7d"

/-- What reading a script comes to. -/
structure ScriptReading where
  graph : Graph
  errors : List BlockError := []
  warnings : List ScriptWarning := []
  deriving DecidableEq

namespace Script

/-- What was found so far. -/
structure Findings where
  blocks : List Block := []
  vars : List Variable := []
  errors : List BlockError := []
  warnings : List ScriptWarning := []
  ids : IdGenerator

/-- The kind of a task class. Classes that are not known make custom tasks. -/
def kindOfClass (className : Option String) : Kind :=
  match className with
  | some "Exec" => .exec
  | some "Copy" => .copy
  | some "Delete" => .delete
  | some "Zip" => .zip
  | some "Jar" => .jar
  | some "Test" => .test
  | some "JavaCompile" => .javaCompile
  | some "ProcessResources" => .processResources
  | _ => .custom

open Recognizer in
/-- The default in the declaration of a variable. -/
def declaredDefault : Recognizer String :=
  (do
    op "="
    (do
      path ["project", "findProperty"]
      let _ ← stringIn "("
      op "?."
      ident "toString"
      ops ["(", ")"]
      op "?:"
      string) <|>
    (do
      let inner ← group "("
      op "."
      ident "toString"
      ops ["(", ")"]
      within (do
        path ["project", "findProperty"]
        let _ ← stringIn "("
        op "?:"
        let value ← string
        finished
        return value) inner)) <|>
  (do
    ident "by"
    path ["project", "extra"]
    stringIn "\x7b")

open Recognizer in
/-- The name and the default of a declared variable. -/
def variableDeclaration : Recognizer (String × String) := do
  ident "val"
  let name ← anyIdent
  op ":"
  ident "String"
  let value ← declaredDefault
  return (name, value)

/-- Adds the task of a registration with a body. -/
def readBlock (text : String) (header : Registration) (body : List Token) (line : Nat)
    (f : Findings) : Except IntegerStop Findings :=
  match split body with
  | .error cause => .ok { f with
      errors := f.errors ++ [⟨header.name, line, "Malformed task block: " ++ cause.message⟩] }
  | .ok statements =>
    let start : Block := { name := header.name, kind := kindOfClass header.className, line }
    let declared := f.vars.map Variable.name
    match readBody text declared statements start with
    | .error cause => .error cause
    | .ok (block, warnings) =>
      match recoverRequest block with
      | .error cause => .error cause
      | .ok block => .ok { f with
          blocks := f.blocks ++ [block]
          warnings := f.warnings ++ warnings.map (.body header.name) }

/-- Adds the variable that a statement declares. An id is issued for every declaration, also for
one that goes on beyond its default and is passed over. -/
def readVariable (tokens : List Token) (f : Findings) : Findings :=
  match variableDeclaration ⟨tokens, 0⟩ with
  | .found (name, defaultValue) rest =>
    let (id, ids) := f.ids.unique ("var_" ++ name)
    if rest.atEnd then
      { f with ids, vars := f.vars ++ [{ id, name, defaultValue }] }
    else { f with ids }
  | _ => f

/-- Reads a statement outside all blocks. -/
def readTopStatement (text : String) (tokens : List Token) (line : Nat) (f : Findings) :
    Except IntegerStop Findings :=
  match registration ⟨tokens, 0⟩ with
  | .found header rest =>
    let body := match Recognizer.group "\x7b" rest with
      | .found inner _ => inner
      | _ => []
    readBlock text header body line f
  | _ => .ok (readVariable tokens f)

/-- Adds the disabled task whose stub a comment holds. -/
def readStub (comment : Token) (f : Findings) : Findings :=
  match registration ⟨(scan comment.value).tokens, 0⟩ with
  | .found header rest =>
    if (rest.peek 0).any (·.isOp "\x7b") then
      { f with blocks := f.blocks ++ [{
          name := header.name, kind := kindOfClass header.className, line := comment.line
          enabled := false }] }
    else f
  | _ => f

/-- Passes over a statement whose delimiters do not pair up, and tells how many tokens. A
registration is an error, and reading goes on inside its body; of any other statement the line is
passed over. -/
def passOver (cause : Unbalanced) (t : Token) (rest : List Token) (f : Findings) :
    Findings × Nat :=
  match registration ⟨t :: rest, 0⟩ with
  | .found header after =>
    let inside := if (after.peek 0).any (·.isOp "\x7b") then after.skip.pos + 1 else after.pos
    ({ f with
      errors := f.errors ++ [⟨header.name, t.line, "Malformed task block: " ++ cause.message⟩] },
      max inside 1)
  | _ => (f, 1 + (rest.takeWhile fun u => u.kind != .newline).length)

/-- Reads tokens one statement after another. `skip` tokens still belong to the statement before,
and `comment` holds the last comment since. -/
def readTokens (text : String) (skip : Nat) (comment : Option String) (f : Findings) :
    List Token → Except IntegerStop Findings
  | [] => .ok f
  | t :: rest =>
    match skip with
    | more + 1 => readTokens text more comment f rest
    | 0 =>
      if t.kind == .newline || t.isOp ";" then readTokens text 0 comment f rest
      else if t.kind == .comment then
        let f := if comment = some disabledMarker then readStub t f else f
        readTokens text 0 (some t.value) f rest
      else
        match statementLength [] none 0 (t :: rest) with
        | .ok n =>
          match readTopStatement text ((t :: rest).take n) t.line f with
          | .ok f => readTokens text (n - 1) none f rest
          | .error stop => .error stop
        | .error cause =>
          let (f, n) := passOver cause t rest f
          readTokens text (n - 1) none f rest

/-- The node of a block. -/
def Block.toNode (b : Block) (id : String) : Node where
  id
  name := b.name
  step := b.step
  group := b.group
  description := b.description
  enabled := b.enabled
  timeoutMinutes := b.timeoutMinutes
  condition := b.condition

/-- Declares the variables that were found. -/
def declareVariables : List Variable → ScriptReading → ScriptReading
  | [], r => r
  | v :: rest, r =>
    match r.graph.addVariable v with
    | .ok graph => declareVariables rest { r with graph }
    | .error cause =>
      declareVariables rest { r with warnings := r.warnings ++ [.variableIgnored v.name cause] }

/-- Adds the nodes of the blocks that were found, and gives the blocks that became nodes. -/
def addNodes : List Block → IdGenerator → ScriptReading → ScriptReading × List (Block × Node)
  | [], _, r => (r, [])
  | b :: rest, ids, r =>
    let (id, ids) := ids.unique ("task_" ++ toIdentifier b.name)
    let node := b.toNode id
    match r.graph.addNode node with
    | .ok graph =>
      let (r, built) := addNodes rest ids { r with graph }
      (r, (b, node) :: built)
    | .error cause =>
      addNodes rest ids { r with errors := r.errors ++ [⟨b.name, b.line, cause.message⟩] }

/-- Adds the edge of one relation of a task. -/
def addRelation (b : Block) (n : Node) (r : ScriptReading) (relation : Relation × String) :
    ScriptReading :=
  match r.graph.nodeNamed? relation.2 with
  | none => { r with
      warnings := r.warnings ++ [.unknownTask b.name relation.1 relation.2] }
  | some other =>
    let ends := if relation.1 = .finalizedBy then (n.id, other.id) else (other.id, n.id)
    match r.graph.addEdge ends.1 ends.2 relation.1 with
    | .ok graph => { r with graph }
    | .error cause => { r with
        warnings := r.warnings ++ [.relationIgnored b.name relation.1 relation.2 cause] }

/-- Puts the graph together from what was found. -/
def assemble (f : Findings) : ScriptReading :=
  let r : ScriptReading := { graph := Graph.empty, errors := f.errors, warnings := f.warnings }
  let (r, built) := addNodes f.blocks f.ids (declareVariables f.vars r)
  let r := built.foldl (fun r b => b.1.relations.foldl (addRelation b.1 b.2) r) r
  if r.graph.nodes.isEmpty then { r with warnings := r.warnings ++ [.noTasks] } else r

end Script

/-- Reads a script, with ids from the given generator. -/
def readScript (text : String) (ids : IdGenerator) : Except IntegerStop ScriptReading := do
  let scanned := scan text
  let warnings := scanned.faults.map fun f => ScriptWarning.lexical f.1 f.2
  let found ← readTokens text 0 none { ids, warnings } scanned.tokens
  return assemble found

end BuildGraph
