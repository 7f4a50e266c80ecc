import BuildGraph.Model.Step

/-!
# Work

A run hands one request after another to whatever does the work. Work reports lines while it goes
on, and comes to an end.
-/

namespace BuildGraph

/-- What is to be done for one task. -/
structure WorkRequest where
  taskId : String
  /-- The script identifier of the task. -/
  taskName : String
  kind : Kind := .custom
  config : Option Config := none
  projectPath : Option String := none
  arguments : List String := []
  environment : TextTable := ∅
  deriving DecidableEq

/-- What work that was carried out came to. -/
structure WorkResult where
  success : Bool := true
  output : String := ""
  error : Option String := none
  exitCode : Option Int := none
  durationMs : Int := 0
  deriving DecidableEq, Repr

/-- A failure of the work itself: its kind and its words. -/
structure WorkFailure where
  kind : String
  words : String
  deriving DecidableEq, Repr

/-- How work ends. -/
inductive WorkEnd where
  | returned (result : WorkResult)
  | failed (failure : WorkFailure)
  /-- The time allowed for the task was up. -/
  | expired
  /-- The work was called off, and the run with it. -/
  | calledOff
  deriving DecidableEq, Repr

/-- The kind of failure that counts as an expired time. -/
def timeoutKind : String := "TimeoutError"

end BuildGraph
