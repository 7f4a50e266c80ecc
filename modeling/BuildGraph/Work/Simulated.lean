import BuildGraph.Number.Binary64
import BuildGraph.Run.Work

/-!
# Simulated work

Work that only reports what a build of its kind would report. Tasks fail if they are listed, and
others by chance. The ids of the last tasks are remembered.

Main definition: `Simulation.perform`.
-/

namespace BuildGraph

open BuildGraph.Number

/-- How long a task of each kind takes, in milliseconds, when nothing is scaled. -/
def baseDuration : Kind → Nat
  | .javaCompile => 2000
  | .test => 3000
  | .jar | .exec => 1500
  | .copy => 500
  | .delete => 300
  | .zip => 1000
  | .processResources => 800
  | .httpRequest => 1200
  | .custom => 200

/-- A source of chance: fractions that are drawn in turn, over and over, and a number that picks
from ranges. -/
structure Chance where
  fractions : List Binary64
  pick : Int := 0
  drawn : Nat := 0
  deriving DecidableEq

namespace Chance

/-- The next fraction. -/
def fraction (c : Chance) : Binary64 :=
  (c.fractions[c.drawn % c.fractions.length]?).getD (.finite (mkRat 1 2))

/-- The source after a draw. -/
def draw (c : Chance) : Chance := { c with drawn := c.drawn + 1 }

/-- A number of a range with both ends. -/
def among (c : Chance) (low high : Int) : Int := low + c.pick % (high - low + 1)

end Chance

/-- A simulation of work. -/
structure Simulation where
  /-- Ids and script identifiers of tasks that fail. -/
  failing : List String := []
  /-- How probably any other task fails. -/
  failureRate : Binary64 := .finite 0
  chance : Chance
  /-- How many ids are remembered, if there is a limit. -/
  limit : Option Nat := some 100
  /-- The ids of the last tasks, oldest first. -/
  executed : List String := []
  deriving DecidableEq

namespace Simulation

/-- The file name that the settings of an archive give. -/
def archiveName (r : WorkRequest) (default : String) : String :=
  match r.config with
  | some (.archive c) => (c.archiveFileName.filter (· ≠ "")).getD default
  | _ => default

/-- What work of each kind reports while it goes on, and what it reports at its end. -/
def stages (chance : Chance) (r : WorkRequest) : String × Option String :=
  let number (low high : Int) : String := toString (chance.among low high)
  match r.kind with
  | .javaCompile =>
    ("Compiling Java source files...", some ("Compiled " ++ number 10 59 ++ " source files"))
  | .test =>
    let count := number 20 119
    ("Running tests...", some (count ++ " tests completed, " ++ count ++ " passed"))
  | .copy | .processResources =>
    ("Copying files...", some ("Copied " ++ number 5 34 ++ " files"))
  | .delete => ("Deleting files...", some "Deleted build directory")
  | .jar => ("Creating JAR archive...", some ("Created " ++ archiveName r "output.jar"))
  | .zip => ("Creating ZIP archive...", some ("Created " ++ archiveName r "archive.zip"))
  | .exec => ("Executing command...", some "Command completed with exit code 0")
  | .httpRequest => ("Making HTTP request...", some "Received 200 OK")
  | .custom => ("Executing task...", none)

/-- Remembers a task. -/
def remember (s : Simulation) (id : String) : List String :=
  let ids := s.executed ++ [id]
  match s.limit with
  | some limit => ids.drop (ids.length - limit)
  | none => ids

/-- Whether a task fails because it is listed. -/
def isListed (s : Simulation) (r : WorkRequest) : Bool :=
  s.failing.contains r.taskId || s.failing.contains r.taskName

/-- Carries out a request: the lines that it reports, its result, and the simulation afterwards. A
fraction is drawn for the duration, and one for the failure if chance decides it. -/
def perform (s : Simulation) (r : WorkRequest) : List String × WorkResult × Simulation :=
  let (progress, outcome) := stages s.chance r
  let lines := ("> Task :" ++ r.taskName) :: progress :: outcome.toList
  let timed := s.chance.draw
  let byChance := !s.isListed r && (Binary64.finite 0).lt s.failureRate
  let fails := s.isListed r || (byChance && timed.fraction.lt s.failureRate)
  let after := { s with
    executed := s.remember r.taskId
    chance := if byChance then timed.draw else timed }
  let last := if fails then "Task :" ++ r.taskName ++ " FAILED" else "BUILD SUCCESSFUL"
  let output := String.intercalate "\n" (lines ++ [last])
  (lines ++ [last], {
    success := !fails, output
    error := if fails then some last else none
    exitCode := some (if fails then 1 else 0) }, after)

end Simulation

end BuildGraph
