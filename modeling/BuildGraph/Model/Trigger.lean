import BuildGraph.Model.Step

/-!
# Triggers

What would start a task on its own. Triggers are kept with a task and described to readers;
nothing acts on them.
-/

namespace BuildGraph

/-- A trigger that fires when files change. -/
structure FileWatch where
  patterns : List String := []
  directories : List String := []
  recursive : Bool := true
  debounceMs : Int := 500
  events : List String := ["create", "modify", "delete"]
  deriving DecidableEq

/-- A trigger that fires by a cron schedule. -/
structure Schedule where
  cron : String := ""
  description : Option String := none
  timezone : Option String := none
  enabled : Bool := true
  deriving DecidableEq

/-- A trigger that fires on an HTTP call. -/
structure Webhook where
  endpoint : String := ""
  methods : List String := ["POST"]
  requiredHeaders : TextTable := ∅
  deriving DecidableEq

/-- What would start a task. -/
inductive Trigger where
  | manual
  | fileWatch (t : FileWatch)
  | schedule (t : Schedule)
  | webhook (t : Webhook)
  deriving DecidableEq

/-- The name of the form of a trigger. -/
def Trigger.typeName : Trigger → String
  | manual => "manual"
  | fileWatch _ => "fileWatch"
  | schedule _ => "schedule"
  | webhook _ => "webhook"

end BuildGraph
