import BuildGraph.Run.Orchestrator
import BuildGraph.Work.Simulated

/-!
# Courses of work

A course is what the work on one task does in order, and how it ends. Work may report lines, control
the run that it belongs to, and wait until it is released. A crew gives each request its course:
from a table of courses, or from a simulation.

Main definitions: `WorkCourse`, `Crew.assign`, `Orchestrator.obey`.
-/

namespace BuildGraph

/-- A call that controls a run. -/
inductive Control where
  | pause | resume | abort | reset
  /-- Begins another run of the same plan. -/
  | run
  deriving DecidableEq, Repr

instance : Named Control where
  title := "Control"
  all := [.pause, .resume, .abort, .reset, .run]
  name
    | .pause => "pause"
    | .resume => "resume"
    | .abort => "abort"
    | .reset => "reset"
    | .run => "run"

/-- Obeys a call. A refused call changes nothing. -/
def Orchestrator.obey (o : Orchestrator) (plan : RunPlan) (c : Control) :
    Orchestrator × Option RunError :=
  let result := match c with
    | .pause => o.pause
    | .resume => o.resume
    | .abort => o.abort
    | .reset => o.reset
    | .run => o.start plan
  match result with
  | .ok next => (next, none)
  | .error refusal => (o, some refusal)

/-- A step of work. -/
inductive WorkAction where
  | report (line : String)
  | control (c : Control)
  /-- Waits until it is released. -/
  | wait
  deriving DecidableEq, Repr

/-- What the work on a task does in order, and how it ends. -/
structure WorkCourse where
  actions : List WorkAction := []
  ending : WorkEnd := .returned {}
  deriving DecidableEq, Repr

/-- The course of work that only says that it ran. -/
def WorkCourse.plain (taskName : String) : WorkCourse where
  actions := [.report ("ran " ++ taskName)]
  ending := .returned { output := "ran " ++ taskName, exitCode := some 0, durationMs := 1 }

/-- Who does the work. -/
inductive Crew where
  /-- Tasks follow the courses that are filed under their script identifiers. -/
  | rehearsed (courses : Table String WorkCourse)
  | simulated (s : Simulation)
  deriving DecidableEq

namespace Crew

/-- The course for a request, and the crew afterwards. -/
def assign (crew : Crew) (r : WorkRequest) : WorkCourse × Crew :=
  match crew with
  | rehearsed courses => ((courses.get? r.taskName).getD (.plain r.taskName), crew)
  | simulated s =>
    let (lines, result, after) := s.perform r
    (⟨lines.map .report, .returned result⟩, .simulated after)

end Crew

end BuildGraph
