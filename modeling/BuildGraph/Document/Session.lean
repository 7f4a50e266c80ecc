import BuildGraph.Document.Run
import BuildGraph.Run.Session
import BuildGraph.Work.Bridge
import BuildGraph.Work.Failure

/-!
# Sessions as documents

Clocks, crews and courses of work from their documents, and what a session shows of itself.
-/

namespace BuildGraph

open Document BuildGraph.Number

/-- The start of a clock that names none. -/
def clockStart : Timestamp := ⟨Timestamp.dayNumber 2024 1 1 * Timestamp.day, some 0⟩

/-- A clock from its document: its start and its step in microseconds. -/
def Clock.ofDocument (d : Document) : Clock :=
  Clock.stepping (((d.field? "start").bind asTime?).getD clockStart)
    ((d.intField? "step_us").getD 1000000)

/-- A fraction from a number. -/
def Document.asFraction : Document → Binary64
  | integer n => Binary64.nearest (n : Rat)
  | decimal x => x
  | _ => .finite 0

/-- A source of chance from its document. -/
def Chance.ofDocument (d : Document) : Chance where
  fractions := (d.fieldItems "random").map asFraction
  pick := (d.intField? "pick").getD 0

/-- A simulation of work from its document. -/
def Simulation.ofDocument (d : Document) : Simulation where
  failing := d.textsField "fail_tasks" []
  failureRate := ((d.field? "failure_rate").map asFraction).getD (.finite 0)
  chance := Chance.ofDocument ((d.field? "rng").getD null)
  limit := match d.field? "history_limit" with
    | some (integer n) => some n.toNat
    | some null => none
    | _ => some 100

/-- A detail of a failure from a value. -/
def FailureDetail.ofDocument : Document → FailureDetail
  | .integer n => .number n
  | .text s => .words s
  | .bool b => .flag b
  | _ => .nothing

/-- The end of work by the failure whose kind and details a list holds. -/
def WorkEnd.ofItems (items : List Document) : WorkEnd :=
  WorkEnd.ofFailure (items.headD null).asText ((items.drop 1).map FailureDetail.ofDocument)

/-- A course of work from the list of its steps and the document of its result. The first failure
among the steps is its end. -/
def WorkCourse.ofSteps (result : WorkResult) : List Document → WorkCourse
  | [] => { ending := .returned result }
  | step :: rest =>
    let name := (step.items.headD null).asText
    let after (action : WorkAction) : WorkCourse :=
      let course := WorkCourse.ofSteps result rest
      { course with actions := action :: course.actions }
    if name = "raise" then { ending := WorkEnd.ofItems (step.items.drop 1) }
    else if name = "progress" then after (.report ((step.items[1]?.getD null).asText))
    else if name = "wait" then after .wait
    else match (ofName? name : Option Control) with
      | some c => after (.control c)
      | none => WorkCourse.ofSteps result rest

/-- A course of work from its document. -/
def WorkCourse.ofDocument (d : Document) : WorkCourse :=
  WorkCourse.ofSteps (WorkResult.ofDocument ((d.field? "result").getD null))
    (d.fieldItems "steps")

/-- Courses of work by script identifier. -/
def Crew.ofCourses (d : Document) : Crew :=
  .rehearsed (Table.ofList (d.fields.map fun f => (f.1, WorkCourse.ofDocument f.2)))

/-- A control of a session from its name. -/
def SessionControl.ofName (name : String) : SessionControl :=
  match (ofName? name : Option Control) with
  | some c => .control c
  | none => if name = "release" then .release else .look

/-- What an orchestrator shows of itself at a glance. -/
def Orchestrator.brief (o : Orchestrator) : List (String × Document) := [
  ("is_running", bool o.isRunning), ("is_paused", bool o.state.isPaused),
  ("cancelled", bool o.state.cancelled),
  ("statuses", list (o.state.results.entries.map fun entry =>
    list [ofText? entry.1, ofMember entry.2.status])),
  ("events", integer o.events.length)]

/-- The words for how a call came out: all is well, or a document of the refusal. -/
def outcomeWith (refused : RunError → Document) (r : Option RunError) : Document :=
  (r.map refused).getD (text "ok")

/-- What a session has to show of its last run. `refused` is the document of a refusal. -/
def Session.toFields (refused : RunError → Document) (s : Session) : List (String × Document) :=
  let o := s.orchestrator
  [("state", o.state.toDocument), ("events", list (o.events.map Event.toDocument)),
    ("replay_equal", bool (decide (replay o.events = o.state))),
    ("run_ids", integer (o.events.map Event.run).eraseDups.length)] ++
  match s.crew with
  | .simulated simulation => [("executed", ofTexts simulation.executed)]
  | .rehearsed _ => [
      ("requests", list (s.requests.map WorkRequest.toDocument)),
      ("script_log", list (s.notes.map fun n =>
        list [text n.taskName, ofMember n.control, outcomeWith refused n.refusal]))]

/-- An event of a host from a list of its kind, its task and its data. -/
def HostEvent.ofDocument (d : Document) : Except DocumentError HostEvent := do
  let kind ← (d.items.headD null).asMember
  return {
    kind, taskName := (d.items[1]?.getD null).asText
    data := (d.items[2]?.getD null).asText? }

/-- The events of a list up to the first whose kind is none, and why it is none. -/
def HostEvent.ofItems : List Document → List HostEvent × Option DocumentError
  | [] => ([], none)
  | d :: rest =>
    match HostEvent.ofDocument d with
    | .error e => ([], some e)
    | .ok event => let (events, fault) := ofItems rest; (event :: events, fault)

end BuildGraph
