import BuildGraph.Number.Integer

/-!
# Schedules in cron notation

A schedule has five fields: minute, hour, day of the month, month and day of the week. Each is `*`,
a step `*/N`, or one number in the range of the field. Well-known schedules and a few common shapes
have descriptions; any other is a custom schedule.

Main definitions: `cronFault?`, `describeCron`.
-/

namespace BuildGraph

open BuildGraph.Text BuildGraph.Number

/-- A well-known schedule. -/
structure CronPreset where
  label : String
  cron : String
  description : String
  deriving DecidableEq, Repr

/-- The well-known schedules. -/
def cronPresets : List CronPreset := [
  ⟨"Every minute", "* * * * *", "Runs every minute"⟩,
  ⟨"Every 5 minutes", "*/5 * * * *", "Runs every 5 minutes"⟩,
  ⟨"Every 15 minutes", "*/15 * * * *", "Runs every 15 minutes"⟩,
  ⟨"Every hour", "0 * * * *", "Runs at the start of every hour"⟩,
  ⟨"Every 6 hours", "0 */6 * * *", "Runs every 6 hours"⟩,
  ⟨"Daily at midnight", "0 0 * * *", "Runs at midnight every day"⟩,
  ⟨"Daily at noon", "0 12 * * *", "Runs at noon every day"⟩,
  ⟨"Weekly (Sunday)", "0 0 * * 0", "Runs at midnight every Sunday"⟩,
  ⟨"Weekly (Monday)", "0 0 * * 1", "Runs at midnight every Monday"⟩,
  ⟨"Monthly", "0 0 1 * *", "Runs at midnight on the 1st of every month"⟩]

/-- A field of a schedule: its name and the numbers it may hold. -/
structure CronField where
  low : Int
  high : Int
  name : String
  deriving DecidableEq, Repr

/-- The fields of a schedule in order. -/
def cronFields : List CronField := [
  ⟨0, 59, "minute"⟩, ⟨0, 23, "hour"⟩, ⟨1, 31, "day of month"⟩, ⟨1, 12, "month"⟩,
  ⟨0, 7, "day of week"⟩]

/-- What is wrong with a schedule. -/
inductive CronFault where
  | fieldCount
  | step (field : CronField)
  | range (field : CronField)
  | malformed (field : CronField)
  deriving DecidableEq, Repr

/-- The words for a fault. -/
def CronFault.message : CronFault → String
  | fieldCount => "Cron expression must have 5 parts"
  | step field => "Invalid step value for " ++ field.name
  | range field =>
    field.name ++ " must be between " ++ toString field.low ++ " and " ++ toString field.high
  | malformed field => "Invalid value for " ++ field.name

/-- What is wrong with one field. A text of digits may turn out to be no number. -/
def CronField.fault? (field : CronField) (part : String) : Except IntegerStop (Option CronFault) :=
  if part = "*" then .ok none
  else if startsWith part "*/" then
    let step := drop 2 part
    if isDigitText step then
      (requireInteger step).map fun n => if n < 1 then some (.step field) else none
    else .ok (some (.step field))
  else if isDigitText part then
    (requireInteger part).map fun n =>
      if n < field.low || field.high < n then some (.range field) else none
  else .ok (some (.malformed field))

/-- The first fault of fields with their texts. -/
def firstCronFault : List (CronField × String) → Except IntegerStop (Option CronFault)
  | [] => .ok none
  | (field, part) :: rest =>
    match field.fault? part with
    | .ok none => firstCronFault rest
    | result => result

/-- What is wrong with a schedule. -/
def cronFault? (cron : String) : Except IntegerStop (Option CronFault) :=
  let parts := words cron
  if parts.length = cronFields.length then firstCronFault (cronFields.zip parts)
  else .ok (some .fieldCount)

/-- The description of a schedule. It looks at the shape of the fields alone. -/
def describeCron (cron : String) : String :=
  match cronPresets.find? fun p => p.cron == cron with
  | some preset => preset.description
  | none =>
    match splitAt ' ' cron with
    | [minute, hour, dayOfMonth, month, dayOfWeek] =>
      if startsWith minute "*/" && hour == "*" then "Every " ++ drop 2 minute ++ " minutes"
      else if minute == "0" && startsWith hour "*/" then "Every " ++ drop 2 hour ++ " hours"
      else if dayOfMonth == "*" && month == "*" && dayOfWeek == "*" && hour != "*" &&
          minute != "*" then
        "Daily at " ++ padLeft 2 '0' hour ++ ":" ++ padLeft 2 '0' minute
      else "Custom schedule"
    | _ => "Custom schedule"

end BuildGraph
