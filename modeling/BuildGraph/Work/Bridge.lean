import BuildGraph.Named
import BuildGraph.Run.Work

/-!
# Work by a host

A host carries out tasks and tells of them by events. The output of the task at hand is passed on
as lines, as long as the host is listened to. A line arrives at once, or is under way for some turns
of the event loop; when the host has come to a result, all lines are waited for.

Main definitions: `HostRun.forward`, `HostCourse.forward`.
-/

namespace BuildGraph

/-- What an event of a host tells of. -/
inductive HostEventKind where
  | started | output | completed | failed
  deriving DecidableEq, Repr

instance : Named HostEventKind where
  title := "BridgeEventType"
  all := [.started, .output, .completed, .failed]
  name
    | .started => "started"
    | .output => "output"
    | .completed => "completed"
    | .failed => "failed"

/-- An event of a host. -/
structure HostEvent where
  kind : HostEventKind
  taskName : String
  data : Option String := none
  deriving DecidableEq, Repr

/-- The line that an event has for a task. Empty output is none. -/
def HostEvent.line? (taskName : String) (e : HostEvent) : Option String :=
  if e.taskName = taskName ∧ e.kind = .output then e.data.filter (· ≠ "") else none

/-- What happens while a host is at work. -/
inductive HostNews where
  | told (event : HostEvent)
  /-- Whatever is under way gets its turn. -/
  | turn
  deriving DecidableEq, Repr

/-- A line that is under way, and the turns that it still takes. -/
structure Transit where
  turns : Nat
  line : String
  deriving DecidableEq, Repr

/-- Lines that are passed on from a host. -/
structure Forwarding where
  /-- The listeners at the host. -/
  listeners : Nat := 0
  /-- The lines that were passed on. -/
  passed : Array String := #[]
  underWay : List Transit := []
  /-- The lines that arrived. -/
  arrived : Array String := #[]
  /-- The tasks that the host was asked to stop. -/
  stopped : List String := []
  deriving DecidableEq

namespace Forwarding

/-- Listens to the host. -/
def subscribe (f : Forwarding) : Forwarding := { f with listeners := f.listeners + 1 }

/-- Listens no longer. -/
def unsubscribe (f : Forwarding) : Forwarding := { f with listeners := f.listeners - 1 }

/-- Asks the host to stop a task. -/
def stop (f : Forwarding) (taskName : String) : Forwarding :=
  { f with stopped := f.stopped ++ [taskName] }

/-- Passes a line on, which takes some turns. -/
def pass (f : Forwarding) (turns : Nat) (line : String) : Forwarding :=
  if turns = 0 then { f with passed := f.passed.push line, arrived := f.arrived.push line }
  else { f with passed := f.passed.push line, underWay := f.underWay ++ [⟨turns, line⟩] }

/-- Gives the lines that are under way their turn. -/
def turn (f : Forwarding) : Forwarding := { f with
  underWay := (f.underWay.filter (1 < ·.turns)).map fun t => { t with turns := t.turns - 1 }
  arrived := f.arrived.appendList ((f.underWay.filter (·.turns ≤ 1)).map Transit.line) }

/-- Hears what happens at the host. `turns` tells how many turns the lines take, by their number. -/
def hear (taskName : String) (turns : Nat → Nat) (f : Forwarding) : HostNews → Forwarding
  | .told event =>
    if f.listeners = 0 then f else
      match event.line? taskName with
      | some line => f.pass (turns f.passed.size) line
      | none => f
  | .turn => f.turn

/-- Waits for the lines that are under way. -/
def await (f : Forwarding) : Forwarding :=
  Nat.repeat turn (f.underWay.foldr (fun t longest => max t.turns longest) 0) f

end Forwarding

/-- What comes of a host's work. -/
structure HostWatch where
  /-- The lines that were passed on. -/
  passed : List String
  /-- Those that arrived. -/
  lines : List String
  /-- Those that are still under way. -/
  underWay : List String
  ending : WorkEnd
  /-- The tasks that the host was asked to stop. -/
  stopped : List String
  /-- The number of listeners left at the host. -/
  listeners : Nat
  deriving DecidableEq

/-- What has come of a host's work. -/
def Forwarding.watch (f : Forwarding) (ending : WorkEnd) : HostWatch where
  passed := f.passed.toList
  lines := f.arrived.toList
  underWay := f.underWay.map Transit.line
  ending
  stopped := f.stopped
  listeners := f.listeners

/-- How a host carries out a request: what happens meanwhile, how it ends, and what happens while it
is asked to stop the task. -/
structure HostRun where
  news : List HostNews
  ending : WorkEnd
  stopping : List HostNews := []

/-- Passes on the lines of a request and takes the end over. The lines under way are waited for if
the host comes to a result, and work that is called off is stopped at the host. -/
def HostRun.forward (h : HostRun) (r : WorkRequest) (turns : Nat → Nat) : HostWatch :=
  let hear := Forwarding.hear r.taskName turns
  let f := h.news.foldl hear (Forwarding.subscribe {})
  let f := if h.ending = .calledOff then h.stopping.foldl hear (f.stop r.taskName) else f
  match h.ending with
  | .returned _ => f.unsubscribe.await.watch h.ending
  | _ => f.unsubscribe.watch h.ending

/-- What a host does for a request at one go: the events it tells, and how it ends. -/
structure HostCourse where
  events : List HostEvent
  ending : WorkEnd
  deriving DecidableEq

/-- Passes on the lines of a request, which arrive at once or take a turn. -/
def HostCourse.forward (h : HostCourse) (r : WorkRequest) (later : Bool) : HostWatch :=
  let run : HostRun := { news := h.events.map .told, ending := h.ending }
  run.forward r fun _ => if later then 1 else 0

end BuildGraph
