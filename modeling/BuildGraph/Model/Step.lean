import BuildGraph.Model.Kind
import BuildGraph.Table

/-!
# What a task does, in detail

Each kind of task has a record of settings; some kinds share one. A `Step` is a kind together with
the settings that belong to it, so a task of one kind with the settings of another cannot be
written down.
-/

namespace BuildGraph

/-- Texts by name, in order. -/
abbrev TextTable := Table String String

/-- Settings of a task that runs a command. -/
structure ExecConfig where
  commandLine : List String := []
  workingDir : Option String := none
  args : List String := []
  environment : TextTable := ∅
  ignoreExitValue : Bool := false
  deriving DecidableEq

/-- Settings of a task that copies files. -/
structure CopyConfig where
  fromPaths : List String := []
  into : String := ""
  includes : List String := []
  excludes : List String := []
  duplicates : Option Duplicates := none
  deriving DecidableEq

/-- Settings of a task that deletes files. -/
structure DeleteConfig where
  delete : List String := []
  followSymlinks : Bool := false
  deriving DecidableEq

/-- Settings of a task that packs an archive. -/
structure ArchiveConfig where
  fromPaths : List String := []
  archiveFileName : Option String := none
  destinationDirectory : Option String := none
  includes : List String := []
  excludes : List String := []
  duplicates : Option Duplicates := none
  preserveFileTimestamps : Bool := true
  deriving DecidableEq

/-- Settings of a task that runs tests. -/
structure TestConfig where
  includes : List String := []
  excludes : List String := []
  maxParallelForks : Option Int := none
  forkEvery : Option Int := none
  failFast : Bool := false
  ignoreFailures : Bool := false
  jvmArgs : List String := []
  deriving DecidableEq

/-- Settings of a task that compiles Java sources. -/
structure JavaCompileConfig where
  sourceCompatibility : Option String := none
  targetCompatibility : Option String := none
  encoding : Option String := none
  compilerArgs : List String := []
  deprecation : Bool := false
  warnings : Bool := true
  deriving DecidableEq

/-- Settings of a task that makes an HTTP request. -/
structure HttpConfig where
  url : String := ""
  method : String := "GET"
  headers : TextTable := ∅
  body : Option String := none
  contentType : Option String := none
  timeoutSeconds : Option Int := none
  followRedirects : Bool := true
  outputFile : Option String := none
  deriving DecidableEq

/-- Settings of any form. -/
inductive Config where
  | exec (c : ExecConfig)
  | copy (c : CopyConfig)
  | delete (c : DeleteConfig)
  | archive (c : ArchiveConfig)
  | test (c : TestConfig)
  | javaCompile (c : JavaCompileConfig)
  | http (c : HttpConfig)
  | custom
  deriving DecidableEq

/-- What messages call a form of settings. -/
def Config.recordName : Config → String
  | exec _ => "ExecConfig"
  | copy _ => "CopyConfig"
  | delete _ => "DeleteConfig"
  | archive _ => "ArchiveConfig"
  | test _ => "TestConfig"
  | javaCompile _ => "JavaCompileConfig"
  | http _ => "HttpRequestConfig"
  | custom => "CustomConfig"

/-- The settings of a kind before anything is set. -/
def Kind.defaultConfig : Kind → Config
  | exec => .exec {}
  | copy | processResources => .copy {}
  | delete => .delete {}
  | zip | jar => .archive {}
  | test => .test {}
  | javaCompile => .javaCompile {}
  | httpRequest => .http {}
  | custom => .custom

/-- A kind with its settings. -/
inductive Step where
  | exec (c : ExecConfig)
  | copy (c : CopyConfig)
  | delete (c : DeleteConfig)
  | zip (c : ArchiveConfig)
  | jar (c : ArchiveConfig)
  | test (c : TestConfig)
  | javaCompile (c : JavaCompileConfig)
  | processResources (c : CopyConfig)
  | httpRequest (c : HttpConfig)
  | custom
  deriving DecidableEq

namespace Step

/-- The kind of a step. -/
def kind : Step → Kind
  | exec _ => .exec
  | copy _ => .copy
  | delete _ => .delete
  | zip _ => .zip
  | jar _ => .jar
  | test _ => .test
  | javaCompile _ => .javaCompile
  | processResources _ => .processResources
  | httpRequest _ => .httpRequest
  | custom => .custom

/-- The settings of a step. -/
def config : Step → Config
  | exec c => .exec c
  | copy c => .copy c
  | delete c => .delete c
  | zip c => .archive c
  | jar c => .archive c
  | test c => .test c
  | javaCompile c => .javaCompile c
  | processResources c => .copy c
  | httpRequest c => .http c
  | custom => .custom

/-- The step of a kind with given settings, if they belong to the kind. -/
def ofConfig? : Kind → Config → Option Step
  | .exec, .exec c => some (exec c)
  | .copy, .copy c => some (copy c)
  | .delete, .delete c => some (delete c)
  | .zip, .archive c => some (zip c)
  | .jar, .archive c => some (jar c)
  | .test, .test c => some (test c)
  | .javaCompile, .javaCompile c => some (javaCompile c)
  | .processResources, .copy c => some (processResources c)
  | .httpRequest, .http c => some (httpRequest c)
  | .custom, .custom => some custom
  | _, _ => none

/-- The step of a kind before anything is set. -/
def ofKind : Kind → Step
  | .exec => exec {}
  | .copy => copy {}
  | .delete => delete {}
  | .zip => zip {}
  | .jar => jar {}
  | .test => test {}
  | .javaCompile => javaCompile {}
  | .processResources => processResources {}
  | .httpRequest => httpRequest {}
  | .custom => custom

/-- A kind and settings make a step exactly when they are those of the step. -/
theorem ofConfig?_eq_some_iff {kind : Kind} {config : Config} {step : Step} :
    ofConfig? kind config = some step ↔ step.kind = kind ∧ step.config = config := by
  constructor
  · intro h
    cases kind <;> cases config <;> simp [ofConfig?] at h <;> subst h <;>
      exact ⟨rfl, rfl⟩
  · rintro ⟨rfl, rfl⟩
    cases step <;> rfl

end Step

end BuildGraph
