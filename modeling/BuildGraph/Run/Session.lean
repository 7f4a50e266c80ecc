import BuildGraph.Run.Course

/-!
# Sessions

A session brings an orchestrator and a crew together. `advance` goes on until the run is over, waits
at the gate, or waits for work that waits itself; `direct` applies one control from outside, and
`release` lets waiting work go on. A session remembers the requests it handed out and what became of
the controls that work called.

Main definitions: `Session.start`, `Session.advance`, `Session.direct`.
-/

namespace BuildGraph

/-- What is left of the work under way. -/
inductive WorkLeft where
  | nothing
  | ready (course : WorkCourse)
  | waiting (course : WorkCourse)
  deriving DecidableEq

/-- A control that work called, and why it was refused, if it was. -/
structure WorkNote where
  taskName : String
  control : Control
  refusal : Option RunError
  deriving DecidableEq

/-- An orchestrator with its crew. -/
structure Session where
  orchestrator : Orchestrator
  crew : Crew
  left : WorkLeft := .nothing
  requests : List WorkRequest := []
  notes : List WorkNote := []

/-- A control from outside. -/
inductive SessionControl where
  | control (c : Control)
  /-- Lets waiting work go on. -/
  | release
  /-- Does nothing. -/
  | look
  deriving DecidableEq

namespace Session

/-- Carries out steps of work until it waits or ends. -/
def work (plan : RunPlan) (taskName : String) (ending : WorkEnd) :
    List WorkAction → Session → Session
  | [], s => { s with left := .nothing, orchestrator := s.orchestrator.finishWork ending }
  | .report line :: rest, s =>
    work plan taskName ending rest { s with orchestrator := s.orchestrator.report line }
  | .control c :: rest, s =>
    let (o, refusal) := s.orchestrator.obey plan c
    work plan taskName ending rest { s with
      orchestrator := o, notes := s.notes ++ [⟨taskName, c, refusal⟩] }
  | .wait :: rest, s => { s with left := .waiting ⟨rest, ending⟩ }

/-- Goes on with what can go on at once, if anything can. -/
def step? (s : Session) : Option Session :=
  match s.orchestrator.phase with
  | .idle _ => none
  | .atGate _ woken _ =>
    if woken || s.orchestrator.gateOpen then some { s with orchestrator := s.orchestrator.wake }
    else none
  | .working plan node _ _ =>
    match s.left with
    | .waiting _ => none
    | .ready course => some (work plan node.identifier course.ending course.actions s)
    | .nothing =>
      let request := plan.request node
      let (course, crew) := s.crew.assign request
      if Orchestrator.expiresAtOnce node then
        some { s with orchestrator := s.orchestrator.finishWork .expired }
      else some (work plan node.identifier course.ending course.actions
        { s with crew, requests := s.requests ++ [request] })

/-- Takes at most `n` steps. -/
def steps : Nat → Session → Session
  | 0, s => s
  | n + 1, s =>
    match s.step? with
    | some next => steps n next
    | none => s

/-- The number of tasks that an orchestrator still has to visit or to finish. -/
def tasksLeft (s : Session) : Nat :=
  match s.orchestrator.phase with
  | .idle _ => 0
  | .atGate _ _ remaining => remaining.length
  | .working _ _ _ remaining => remaining.length + 1

/-- Goes on as far as possible. Each task takes at most two steps, one to leave the gate and one to
work. -/
def advance (s : Session) : Session := steps (2 * s.tasksLeft + 2) s

/-- Begins a run of a plan with a crew, up to the first work. -/
def start (s : Session) (plan : RunPlan) (crew : Crew) : Except RunError Session :=
  (s.orchestrator.start plan).map fun orchestrator =>
    { orchestrator, crew, left := .nothing, requests := [], notes := [] }

/-- Lets waiting work go on. -/
def release (s : Session) : Session :=
  match s.left with
  | .waiting course => { s with left := .ready course }
  | _ => s

/-- Applies a control from outside, and tells why it is refused, if it is. -/
def direct (s : Session) (plan : RunPlan) : SessionControl → Session × Option RunError
  | .control c =>
    let (orchestrator, refusal) := s.orchestrator.obey plan c
    ({ s with orchestrator }, refusal)
  | .release => (s.release, none)
  | .look => (s, none)

/-- Whether the run is over. -/
def isOver (s : Session) : Bool := !s.orchestrator.isRunning

/-- Applies controls with their names one after another until the run is over. After each it notes
what `view` sees, and goes on as far as possible. -/
def conduct {α : Type} (plan : RunPlan)
    (view : SessionControl × String → Option RunError → Session → α) :
    List (SessionControl × String) → Session → List α × Session
  | [], s => ([], s)
  | c :: rest, s =>
    if s.isOver then ([], s)
    else
      let (directed, refusal) := s.direct plan c.1
      let (seen, final) := conduct plan view rest directed.advance
      (view c refusal directed :: seen, final)

/-- Lets waiting work go on, up to `n` times. -/
def releases : Nat → Session → Session
  | 0, s => s
  | n + 1, s => if s.isOver then s else releases n s.release.advance

/-- Aborts a run and lets its work come to an end. -/
def conclude (s : Session) (plan : RunPlan) : Session :=
  let waits := match s.left with
    | .waiting course => course.actions.length + 1
    | _ => 0
  releases waits (s.direct plan (.control .abort)).1.advance

end Session

end BuildGraph
