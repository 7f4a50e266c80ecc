import BuildGraph.Document.History
import BuildGraph.Document.Session
import BuildGraph.Graph.Builder
import BuildGraph.Script.Check
import BuildGraph.Script.Read
import BuildGraph.Service.Form
import BuildGraph.Service.Route

/-!
# The service

A service answers requests for graphs, scripts and runs. It has one session and one store of history
entries. A body that does not have the form its route asks for is refused before anything else. A
run goes on when it is begun and when the service is told to let it; a request that only controls or
looks at it is answered before it goes on. A run leaves an entry in the history when it is over.

Main definitions: `Service.answer`, `Service.advance`, `Service.settle`.
-/

namespace BuildGraph

open Document

/-- A request. -/
structure Inquiry where
  method : String
  path : String
  body : Option Document := none

/-- A reply: a status and a body. -/
structure Reply where
  status : Nat
  body : Document

/-- Why a request comes to no reply. -/
inductive ServiceFault where
  | integer (cause : Number.IntegerStop)
  | pattern (cause : PatternFault)
  | history (cause : HistoryFault)
  | store (cause : StoreError)
  deriving DecidableEq, Repr

/-- A service. -/
structure Service where
  session : Session
  store : HistoryStore
  maxLogs : Int := 100
  /-- The number of entries that were made. -/
  made : Nat := 0
  /-- The plan and the label of a run that has left no entry yet. -/
  pending : Option (RunPlan × Option String) := none

namespace Reply

/-- A reply that all is well. -/
def ok (fields : List (String × Document)) : Reply := ⟨200, object fields⟩

/-- A refusal with words. -/
def refusal (status : Nat) (words : String) : Reply := ⟨status, object [("detail", text words)]⟩

/-- A refusal of a body that has faults at places. -/
def invalid (places : List String) : Reply :=
  ⟨422, object [("invalid", ofTexts (places.mergeSort fun a b => decide (a ≤ b)))]⟩

/-- The reply to a request that has no route. -/
def ofMiss : Route.Miss → Reply
  | .path => refusal 404 "Not Found"
  | .method => refusal 405 "Method Not Allowed"
  | .slash => ⟨307, null⟩

/-- The reply to a call that a run refuses. -/
def ofRunError (e : RunError) : Reply := refusal 409 e.message

/-- The reply about an entry that is not there. -/
def missingEntry (id : String) : Reply := refusal 404 ("History entry '" ++ id ++ "' not found")

/-- The reply to a graph that is refused. An unknown node is not found; anything else is invalid. -/
def ofGraphFault (e : DocumentError) : Reply :=
  match e with
  | .graph (.unknownNode _) => refusal 404 e.message
  | _ => refusal 422 ("Invalid graph: " ++ e.message)

end Reply

/-- The form of a graph. -/
def graphForm : Form :=
  .record (["nodes", "edges", "groups", "variables"].map fun name =>
    { name, form := .listOf .anyObject })

/-- The form of the settings of a script. -/
def exportForm : Form := .record [
  { name := "include_comments", form := .truth },
  { name := "include_descriptions", form := .truth },
  { name := "disabled_tasks", form := .member DisabledStyle },
  { name := "variable_format", form := .member VariableFormat },
  { name := "project_name", form := .orNull .text }]

/-- The form of the body that a route asks for, if it asks for one. -/
def Route.form? : Route → Option Form
  | validateGraph => some graphForm
  | executionOrder => some (.record [
      { name := "graph", required := true, form := graphForm },
      { name := "targets", form := .orNull (.listOf .text) }])
  | validateConnection => some (.record [
      { name := "graph", required := true, form := graphForm },
      { name := "source", required := true, form := .text },
      { name := "target", required := true, form := .text },
      { name := "kind", form := .member Relation }])
  | exportScript => some (.record [
      { name := "graph", required := true, form := graphForm },
      { name := "options", form := exportForm }])
  | importScript => some (.record [{ name := "text", required := true, form := .text }])
  | startRun => some (.record [
      { name := "graph", required := true, form := graphForm },
      { name := "targets", form := .orNull (.listOf .text) },
      { name := "project_path", form := .orNull .text },
      { name := "arguments", form := .listOf .text },
      { name := "environment", form := .tableOf .text },
      { name := "properties", form := .tableOf .text },
      { name := "label", form := .orNull .text }])
  | labelEntry _ => some (.record [{ name := "label", form := .orNull .text }])
  | _ => none

/-- The options of a script from the body of a request. -/
def readExportOptions (d : Document) : ExportOptions :=
  let flag (key : String) : Bool := ((d.field? key).bind Form.truth?).getD true
  { includeComments := flag "include_comments"
    includeDescriptions := flag "include_descriptions"
    disabledTasks := ((d.textField? "disabled_tasks").bind ofName?).getD .comment
    variableFormat := ((d.textField? "variable_format").bind ofName?).getD .properties
    projectName := d.textField? "project_name" }

/-- The targets of a body, none for all tasks. -/
def readTargets (d : Document) : Option (List String) :=
  match d.field? "targets" with
  | some (.list items) => some (items.map asText)
  | _ => none

/-- The document of a state, with the results by task. -/
def RunState.toBody (s : RunState) : Document :=
  s.toDocumentWith (object (s.results.entries.map fun entry =>
    (entry.1.getD "", object entry.2.toFields)))

/-- The fields of a check before a script is written. -/
def ExportCheck.toFields (c : ExportCheck) : List (String × Document) := [
  ("valid", bool c.isValid), ("errors", ofTexts (c.faults.map ExportFault.message)),
  ("warnings", ofTexts (c.undeclared.map UndeclaredReference.message))]

/-- Does something with the graph of a body, or refuses the graph. -/
def withGraph (d : Document) (use : Graph → Reply) : Reply :=
  match Graph.ofDocument d with
  | .ok g => use g
  | .error e => .ofGraphFault e

/-- The graph of a body that has other fields too. -/
def graphOf (body : Document) : Document := (body.field? "graph").getD null

/-- What speaks against a graph. -/
def checkGraph (g : Graph) : Reply :=
  .ok (g.exportCheck.toFields ++ [
    ("node_errors", object ((g.nodes.filter fun n => !n.faults.isEmpty).map fun n =>
      (n.id, list (n.faults.map fun f =>
        object [("field", text f.field), ("message", text f.message)])))),
    ("cycle", ((Order.findCycle g.nodes g.edges false).map ofTexts).getD null)])

/-- The order in which targets of a graph are visited. -/
def orderGraph (targets : Option (List String)) (g : Graph) : Reply :=
  match (targets.getD []).filter fun t => !g.hasNode t with
  | [] =>
    let order := g.executionOrder targets
    .ok [("execution_order", ofTexts order),
      ("task_names", ofTexts (order.map fun id => ((g.node? id).map Node.name).getD id))]
  | unknown => .refusal 404 ("Unknown task(s): " ++ String.intercalate ", " unknown)

/-- What speaks against a further edge. -/
def checkConnection (source target : String) (relation : Relation) (g : Graph) : Reply :=
  match [source, target].find? fun id => !g.hasNode id with
  | some id => .refusal 404 ("Task '" ++ id ++ "' not found")
  | none =>
    let fault := Order.connectionFault g.nodes g.edges source target relation
    .ok [("valid", bool fault.isNone),
      ("message", ofText? (fault.map Order.ConnectionFault.message))]

/-- The script of a graph, and what speaks against it. -/
def exportGraph (options : ExportOptions) (g : Graph) : Reply :=
  .ok (("script", text (g.script options clockStart)) :: g.exportCheck.toFields)

/-- The graph of a script. -/
def importGraph (script : String) : Except ServiceFault Reply :=
  ((readScript script {}).mapError .integer).map fun r => .ok [
    ("success", bool r.errors.isEmpty), ("graph", r.graph.toDocument),
    ("errors", ofTexts (r.errors.map BlockError.message)),
    ("warnings", ofTexts (r.warnings.map ScriptWarning.message))]

namespace Service

/-- Enters a run that is over in the history. A run that broke off leaves no entry. -/
def settle (s : Service) : Except ServiceFault Unit × Service :=
  match s.pending with
  | none => (.ok (), s)
  | some (plan, label) =>
    let o := s.session.orchestrator
    match o.phase with
    | .idle none =>
      let s := { s with
        session := { s.session with orchestrator := { o with clock := o.clock.tick } }
        pending := none }
      match HistoryEntry.summarize o.state.record plan.graph label s.maxLogs o.clock.now
          (Timestamp.padded 7 (s.made + 1)) with
      | .error cause => (.error (.history cause), s)
      | .ok entry =>
        let (store, r) := s.store.add entry
        (r.mapError .store, { s with store, made := s.made + 1 })
    | .idle (some (.guard f)) => (.error (.pattern f), { s with pending := none })
    | .idle (some .calledOff) => (.ok (), { s with pending := none })
    | _ => (.ok (), s)

/-- Refuses what was done with readings that no clock can show. -/
def timed {α : Type} (r : Except ServiceFault α × Service) : Except ServiceFault α × Service :=
  if r.2.session.orchestrator.clock.isInRange then r
  else (.error (.history (.time .outOfRange)), r.2)

/-- Lets the run go on as far as possible. -/
def advance (s : Service) : Except ServiceFault Unit × Service :=
  timed (settle { s with session := s.session.advance })

/-- Lets waiting work go on. -/
def release (s : Service) : Except ServiceFault Unit × Service :=
  advance { s with session := s.session.release }

/-- Replies before the run goes on. -/
def replying (s : Service) (reply : Reply) : Except ServiceFault Reply × Service :=
  let (gone, s) := s.advance
  (gone.map fun _ => reply, s)

/-- Begins a run of a graph. -/
def startRun (s : Service) (body : Document) : Except ServiceFault Reply × Service :=
  if s.session.orchestrator.isRunning then (.ok (.ofRunError .inProgress), s)
  else match Graph.ofDocument (graphOf body) with
    | .error e => (.ok (.ofGraphFault e), s)
    | .ok graph =>
      let plan : RunPlan := {
        graph, targets := readTargets body
        options := { RunOptions.ofDocument body with inheritEnvironment := true } }
      match s.session.start plan s.session.crew with
      | .error e => (.ok (.ofRunError e), s)
      | .ok session =>
        let order := plan.order
        { s with session, pending := some (plan, body.textField? "label") }.replying
          (.ok [("message", text ("Run triggered for " ++ toString order.length ++ " task(s)")),
            ("execution_order", ofTexts order)])

/-- Controls the run, which goes on later. -/
def control (s : Service) (c : Control) : Except ServiceFault Reply × Service :=
  let plan : RunPlan := ((s.pending.map Prod.fst).getD { graph := Graph.empty })
  let (o, refusal) := s.session.orchestrator.obey plan c
  let s := { s with session := { s.session with orchestrator := o } }
  let reply : Reply := match refusal with
    | some e => .ofRunError e
    | none =>
      if c = .reset then .ok [("message", text "Execution state cleared")]
      else .ok [
        ("message", text ("Run " ++ nameOf c ++ " requested")), ("state", o.state.toBody)]
  (.ok reply, s)

/-- The reply that a store gives about an entry. -/
def aboutEntry (id : String) (r : Except StoreError Document) : Reply :=
  match r with
  | .ok d => ⟨200, d⟩
  | .error _ => .missingEntry id

/-- The history with what it adds up to. -/
def historyReply (s : Service) : Reply :=
  let stats := match HistoryStats.ofEntries? s.store.entries with
    | .ok stats => stats
    | .error _ => {}
  .ok [("entries", list (s.store.entries.map HistoryEntry.toDocument)),
    ("stats", stats.toDocument)]

/-- What the present run has come to. -/
def currentReply (s : Service) : Reply :=
  let o := s.session.orchestrator
  .ok (("run_id", if o.isRunning then text "run" else null) :: o.state.toBody.fields)

/-- Serves a request whose body has the right form. -/
def serve (s : Service) (route : Route) (body : Document) : Except ServiceFault Reply × Service :=
  match route with
  | .sampleGraph => (.ok ⟨200, Graph.sample.toDocument⟩, s)
  | .validateGraph => (.ok (withGraph body checkGraph), s)
  | .executionOrder => (.ok (withGraph (graphOf body) (orderGraph (readTargets body))), s)
  | .validateConnection =>
    (.ok (withGraph (graphOf body) (checkConnection (body.textField "source" "")
      (body.textField "target" "")
      (((body.textField? "kind").bind ofName?).getD .dependsOn))), s)
  | .exportScript =>
    (.ok (withGraph (graphOf body)
      (exportGraph (readExportOptions ((body.field? "options").getD null)))), s)
  | .importScript => (importGraph (body.textField "text" ""), s)
  | .startRun => s.startRun body
  | .currentRun => (.ok s.currentReply, s)
  | .control c => s.control c
  | .history => (.ok s.historyReply, s)
  | .clearHistory =>
    (.ok (.ok [("message", text "Execution history cleared")]),
      { s with store := s.store.emptied })
  | .entry id => (.ok (aboutEntry id ((s.store.load id).map HistoryEntry.toDocument)), s)
  | .labelEntry id =>
    match s.store.updateLabel id (body.textField? "label") with
    | .ok (entry, store) => (.ok ⟨200, entry.toDocument⟩, { s with store })
    | .error _ => (.ok (.missingEntry id), s)
  | .deleteEntry id =>
    match s.store.delete id with
    | .ok (true, store) =>
      (.ok (.ok [("message", text ("History entry '" ++ id ++ "' deleted"))]), { s with store })
    | _ => (.ok (.missingEntry id), s)

/-- Answers a request. -/
def answer (s : Service) (q : Inquiry) : Except ServiceFault Reply × Service :=
  match Route.find q.method q.path with
  | .error miss => (.ok (.ofMiss miss), s)
  | .ok route =>
    let body := q.body.getD null
    match route.form? with
    | none => s.serve route body
    | some form =>
      match form "body" body with
      | [] => s.serve route body
      | places => (.ok (.invalid places), s)

end Service

end BuildGraph
