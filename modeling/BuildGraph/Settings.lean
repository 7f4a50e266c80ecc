import BuildGraph.Number.Binary64
import BuildGraph.Text.Quoted
import BuildGraph.Work.Process

/-!
# Settings

The settings of a service come from its environment. A variable that is missing gives a default; one
that should be a number and is none is refused. The first refused variable counts, in the order of
the fields of `Settings`.
-/

namespace BuildGraph

open BuildGraph.Number

/-- What a service is set to. -/
structure Settings where
  /-- Where histories are kept. -/
  databaseUrl : String := "sqlite:///gradleflow.db"
  maxHistoryEntries : Int := 50
  maxLogsPerEntry : Int := 100
  /-- Which kind of work is done. -/
  executionMode : String := "simulated"
  executable : String := "gradle"
  projectDir : Option String := none
  buildFile : Option String := none
  /-- How much simulated work is slowed down. -/
  delayScale : Binary64 := .finite 1
  logLevel : String := "INFO"
  deriving DecidableEq

/-- Why settings are refused. -/
inductive SettingsFault where
  | integer (cause : IntegerStop)
  | number (text : String)
  deriving DecidableEq, Repr

/-- The words for a fault. -/
def SettingsFault.message : SettingsFault → String
  | integer cause => cause.message
  | number text => "could not convert string to float: " ++ Text.display text

namespace Settings

/-- The settings that an environment gives. -/
def ofEnvironment (environment : Table String String) : Except SettingsFault Settings := do
  let word (name default : String) : String := (environment.get? name).getD default
  let integer (name : String) (default : Int) : Except SettingsFault Int :=
    match environment.get? name with
    | some text => (requireInteger text).mapError .integer
    | none => .ok default
  let maxHistoryEntries ← integer "MAX_HISTORY_ENTRIES" 50
  let maxLogsPerEntry ← integer "MAX_LOGS_PER_ENTRY" 100
  let delayScale ← match environment.get? "SIMULATION_DELAY_SCALE" with
    | none => .ok (.finite 1)
    | some text => match readBinary64? text with
      | some x => .ok x
      | none => .error (.number text)
  return {
    databaseUrl := word "DATABASE_URL" "sqlite:///gradleflow.db"
    maxHistoryEntries, maxLogsPerEntry
    executionMode := word "EXECUTION_MODE" "simulated"
    executable := word "GRADLE_EXECUTABLE" "gradle"
    projectDir := (environment.get? "PROJECT_DIR").filter (· ≠ "")
    buildFile := (environment.get? "BUILD_FILE").filter (· ≠ "")
    delayScale, logLevel := word "LOG_LEVEL" "INFO" }

/-- The build tool that the settings choose, if work is not simulated. -/
def buildTool? (s : Settings) : Option BuildTool :=
  if s.executionMode = "gradle" then some ⟨s.executable, s.projectDir, s.buildFile⟩ else none

end Settings

end BuildGraph
