import BuildGraph.Model.Trigger
import BuildGraph.Trigger.Cron

/-!
# Triggers in words

New triggers of each type, and what a trigger says to a reader. Nothing here fires one.
-/

namespace BuildGraph

/-- A trigger of a type with its first settings. Any other word makes a manual one. -/
def Trigger.ofTypeName (name : String) : Trigger :=
  if name = "fileWatch" then .fileWatch { patterns := ["**/*"], directories := ["src"] }
  else if name = "schedule" then
    .schedule {
      cron := "0 * * * *", description := some "Runs every hour", timezone := some "UTC" }
  else if name = "webhook" then .webhook { endpoint := "/hooks/task" }
  else .manual

/-- A text unless it is missing or empty, then another. -/
def textOr (text : Option String) (other : String) : String :=
  match text with
  | some s => if s = "" then other else s
  | none => other

/-- A trigger in words. -/
def Trigger.describe : Trigger → String
  | manual => "Manual execution"
  | fileWatch w =>
    "Watching " ++ String.intercalate ", " w.directories ++ " for " ++
      String.intercalate ", " w.patterns ++ " (" ++ String.intercalate "/" w.events ++ ")"
  | schedule s =>
    textOr s.description (describeCron s.cron ++ " (" ++ textOr s.timezone "UTC" ++ ")")
  | webhook w => String.intercalate "/" w.methods ++ " " ++ w.endpoint

/-- Whether a trigger may start a run by itself. -/
def Trigger.isActive : Trigger → Bool
  | manual => false
  | schedule s => s.enabled
  | _ => true

/-- A trigger in words. A task without one is started by hand. -/
def describeTrigger (trigger : Option Trigger) : String := (trigger.getD .manual).describe

end BuildGraph
