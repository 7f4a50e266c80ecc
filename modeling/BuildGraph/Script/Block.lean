import BuildGraph.Document.Basic
import BuildGraph.Script.Curl
import BuildGraph.Script.Guard.Read
import BuildGraph.Script.Registration

/-!
# Blocks of a script

The statements in the body of a registration set the fields of a `Block`: a task under
construction. A statement that is not understood is passed over. One that begins with a setting
and goes on beyond it has set the field all the same.
-/

namespace BuildGraph.Script

open Recognizer BuildGraph.Text BuildGraph.Number

/-- The settings that the body of a block can give. A setting that is absent was not mentioned. -/
structure Settings where
  commandLine : Option (List String) := none
  workingDir : Option String := none
  args : Option (List String) := none
  environment : Option TextTable := none
  ignoreExitValue : Option Bool := none
  fromPaths : Option (List String) := none
  into : Option String := none
  includes : Option (List String) := none
  excludes : Option (List String) := none
  duplicates : Option Duplicates := none
  delete : Option (List String) := none
  followSymlinks : Option Bool := none
  archiveFileName : Option String := none
  destinationDirectory : Option String := none
  preserveFileTimestamps : Option Bool := none
  maxParallelForks : Option Int := none
  forkEvery : Option Int := none
  failFast : Option Bool := none
  ignoreFailures : Option Bool := none
  jvmArgs : Option (List String) := none
  sourceCompatibility : Option String := none
  targetCompatibility : Option String := none
  encoding : Option String := none
  compilerArgs : Option (List String) := none
  deprecation : Option Bool := none
  warnings : Option Bool := none
  deriving DecidableEq

namespace Settings

/-- The settings of a command. -/
def exec (s : Settings) : ExecConfig where
  commandLine := s.commandLine.getD []
  workingDir := s.workingDir
  args := s.args.getD []
  environment := s.environment.getD ∅
  ignoreExitValue := s.ignoreExitValue.getD false

/-- The settings of a copy. -/
def copy (s : Settings) : CopyConfig where
  fromPaths := s.fromPaths.getD []
  into := s.into.getD ""
  includes := s.includes.getD []
  excludes := s.excludes.getD []
  duplicates := s.duplicates

/-- The settings of an archive. -/
def archive (s : Settings) : ArchiveConfig where
  fromPaths := s.fromPaths.getD []
  archiveFileName := s.archiveFileName
  destinationDirectory := s.destinationDirectory
  includes := s.includes.getD []
  excludes := s.excludes.getD []
  duplicates := s.duplicates
  preserveFileTimestamps := s.preserveFileTimestamps.getD true

/-- The settings of a test run. -/
def test (s : Settings) : TestConfig where
  includes := s.includes.getD []
  excludes := s.excludes.getD []
  maxParallelForks := s.maxParallelForks
  forkEvery := s.forkEvery
  failFast := s.failFast.getD false
  ignoreFailures := s.ignoreFailures.getD false
  jvmArgs := s.jvmArgs.getD []

/-- The settings of a compilation. -/
def javaCompile (s : Settings) : JavaCompileConfig where
  sourceCompatibility := s.sourceCompatibility
  targetCompatibility := s.targetCompatibility
  encoding := s.encoding
  compilerArgs := s.compilerArgs.getD []
  deprecation := s.deprecation.getD false
  warnings := s.warnings.getD true

/-- The step of a kind, with the settings that belong to it. -/
def step (s : Settings) : Kind → Step
  | .exec => .exec s.exec
  | .copy => .copy s.copy
  | .delete => .delete {
      delete := s.delete.getD [], followSymlinks := s.followSymlinks.getD false }
  | .zip => .zip s.archive
  | .jar => .jar s.archive
  | .test => .test s.test
  | .javaCompile => .javaCompile s.javaCompile
  | .processResources => .processResources s.copy
  | .httpRequest => .httpRequest {}
  | .custom => .custom

/-- Adds texts at the end of a setting. -/
def extend (old : Option (List String)) (values : List String) : Option (List String) :=
  some (old.getD [] ++ values)

end Settings

/-- A task under construction. -/
structure Block where
  name : String
  kind : Kind
  line : Nat
  enabled : Bool := true
  group : Option String := none
  description : Option String := none
  timeoutMinutes : Option Int := none
  condition : Option Guard := none
  settings : Settings := {}
  /-- The request, for a command that makes one. -/
  request : Option HttpConfig := none
  /-- The names of tasks it is related to. -/
  relations : List (Relation × String) := []
  deriving DecidableEq

/-- What is remarked on the body of a block. -/
inductive BodyWarning where
  | unreadableReference (relation : Relation) (text : String)
  | unreadableGuard (text : String)
  deriving DecidableEq, Repr

/-- The words for a remark on a task. -/
def BodyWarning.message (task : String) : BodyWarning → String
  | unreadableReference relation text =>
    "Task \"" ++ task ++ "\": unrecognized " ++ relation.name ++ " reference \"" ++ text ++ "\""
  | unreadableGuard text =>
    "Task \"" ++ task ++ "\": unrecognized onlyIf condition kept as literal: " ++ text

/-- What a reading of a statement does to a block. -/
structure Effect where
  apply : Block → Block
  warnings : List BodyWarning := []
  /-- Whether all that was read was understood. -/
  complete : Bool := true

/-- The effect of a change. -/
def changing (apply : Block → Block) : Effect := { apply }

/-- The effect of a change of the settings. -/
def setting (apply : Settings → Settings) : Effect :=
  changing fun b => { b with settings := apply b.settings }

/-- The truth values. -/
def boolean : Recognizer Bool :=
  (do ident "true"; return true) <|> (do ident "false"; return false)

/-- The digits of a number without the mark of a long one and without underscores. -/
def integerText (number : String) : String :=
  String.ofList ((trimRightOf ['L', 'l'] number).toList.filter (· != '_'))

/-- An integer. What looks like one and is none stops the reading. -/
def integer : Recognizer Int := do
  let text := integerText (← number)
  fun c =>
    if isDigitText text then
      match requireInteger text with
      | .ok n => .found n c
      | .error cause => .stopped (.integer cause)
    else .absent

/-- A file given by its path. -/
def fileCall : Recognizer String := do
  ident "file"
  stringIn "("

/-- A directory of the project, of the build, or given by its path. -/
def directory : Recognizer String :=
  (do
    ident "layout"
    op "."
    let base ← anyIdent
    require (base == "projectDirectory" || base == "buildDirectory")
    op "."
    ident "dir"
    stringIn "(") <|>
  fileCall

/-- A duration in minutes. -/
def durationMinutes : Recognizer Int := do
  path ["Duration", "ofMinutes"]
  let args ← group "("
  within (do
    let n ← integer
    finished
    return n) args

/-- The name of the task that an argument refers to. -/
def taskReference? (tokens : List Token) : Option String :=
  let named : Recognizer String := do
    op "."
    let method ← anyIdent
    require (method == "named" || method == "getByName")
    let _ ← optional typeArgument
    stringIn "("
  let reading : Recognizer String :=
    string <|> (do ident "tasks"; named <|> stringIn "[") <|>
    (do
      let name ← anyIdent
      require (name != "tasks")
      return name)
  match reading ⟨tokens, 0⟩ with
  | .found name rest =>
    let plain := String.ofList (name.toList.dropWhile (· == ':'))
    if rest.atEnd && plain != "" then some plain else none
  | _ => none

/-- What setting a property to a truth value does. -/
def booleanProperty? (property : String) : Option (Bool → Effect) :=
  if property = "isIgnoreExitValue" || property = "ignoreExitValue" then
    some fun value => setting fun s => { s with ignoreExitValue := some value }
  else if property = "followSymlinks" then
    some fun value => setting fun s => { s with followSymlinks := some value }
  else if property = "failFast" then
    some fun value => setting fun s => { s with failFast := some value }
  else if property = "ignoreFailures" then
    some fun value => setting fun s => { s with ignoreFailures := some value }
  else if property = "isPreserveFileTimestamps" || property = "preserveFileTimestamps" then
    some fun value => setting fun s => { s with preserveFileTimestamps := some value }
  else if property = "enabled" then
    some fun value => changing fun b => { b with enabled := value }
  else none

/-- What setting a property to a text does. -/
def textProperty? (property : String) : Option (String → Effect) :=
  if property = "group" then some fun value => changing fun b => { b with group := some value }
  else if property = "description" then
    some fun value => changing fun b => { b with description := some value }
  else if property = "archiveFileName" then
    some fun value => setting fun s => { s with archiveFileName := some value }
  else if property = "sourceCompatibility" then
    some fun value => setting fun s => { s with sourceCompatibility := some value }
  else if property = "targetCompatibility" then
    some fun value => setting fun s => { s with targetCompatibility := some value }
  else none

/-- What setting a property to an integer does. -/
def integerProperty? (property : String) : Option (Int → Effect) :=
  if property = "maxParallelForks" then
    some fun value => setting fun s => { s with maxParallelForks := some value }
  else if property = "forkEvery" then
    some fun value => setting fun s => { s with forkEvery := some value }
  else none

/-- What the value of a property is read as, and what setting it does. -/
def propertyValue (property : String) : Recognizer Effect :=
  if property = "duplicatesStrategy" then do
    ident "DuplicatesStrategy"
    op "."
    let value ← ofOption (ofName? (← anyIdent))
    return setting fun s => { s with duplicates := some value }
  else if property = "destinationDirectory" then do
    let value ← directory
    return setting fun s => { s with destinationDirectory := some value }
  else if property = "workingDir" then do
    let value ← fileCall
    return setting fun s => { s with workingDir := some value }
  else if property = "timeout" then do
    let value ← durationMinutes
    return changing fun b => { b with timeoutMinutes := some value }
  else
    match textProperty? property, booleanProperty? property, integerProperty? property with
    | some effect, _, _ => do return effect (← string)
    | none, some effect, _ => do return effect (← boolean)
    | none, none, some effect => do return effect (← integer)
    | none, none, none => absent

/-- A setting by `=`. -/
def assignment : Recognizer Effect := do
  let property ← anyIdent
  op "="
  propertyValue property

/-- A setting by a call of `set`. -/
def setterCall : Recognizer Effect := do
  let property ← anyIdent
  op "."
  ident "set"
  let args ← group "("
  if property = "timeout" then
    let value ← within (do
      let n ← durationMinutes
      finished
      return n) args
    return changing fun b => { b with timeoutMinutes := some value }
  else if property = "archiveFileName" then
    let value ← ofOption (singleString? args)
    return setting fun s => { s with archiveFileName := some value }
  else if property = "destinationDirectory" then
    let value ← within (do
      let s ← directory
      finished
      return s) args
    return setting fun s => { s with destinationDirectory := some value }
  else absent

/-- The effect of relating a task to others. -/
def relating (text : String) (relation : Relation) (args : List (List Token)) : Effect :=
  let readings := args.map fun arg => (arg, taskReference? arg)
  { apply := fun b => { b with
      relations := b.relations ++
        readings.filterMap fun r => r.2.map fun name => (relation, name) }
    warnings := readings.filterMap fun r =>
      if r.2.isNone then some (.unreadableReference relation (spanned text r.1)) else none }

/-- What a call with literals adds to a setting. -/
def listCall? (method : String) : Option (List String → Effect) :=
  if method = "from" then some fun values =>
    setting fun s => { s with fromPaths := Settings.extend s.fromPaths values }
  else if method = "include" then some fun values =>
    setting fun s => { s with includes := Settings.extend s.includes values }
  else if method = "exclude" then some fun values =>
    setting fun s => { s with excludes := Settings.extend s.excludes values }
  else if method = "commandLine" then some fun values =>
    setting fun s => { s with commandLine := Settings.extend s.commandLine values }
  else if method = "args" then some fun values =>
    setting fun s => { s with args := Settings.extend s.args values }
  else if method = "jvmArgs" then some fun values =>
    setting fun s => { s with jvmArgs := Settings.extend s.jvmArgs values }
  else if method = "delete" then some fun values =>
    setting fun s => { s with delete := Settings.extend s.delete values }
  else none

/-- The effect of a call with one literal or with a pair of them. -/
def valueCall? (method : String) (args : List Token) : Option Effect :=
  if method = "into" then
    (singleString? args).map fun value => setting fun s => { s with into := some value }
  else if method = "workingDir" then
    (singleString? args).map fun value => setting fun s => { s with workingDir := some value }
  else if method = "environment" then
    match stringArguments? args with
    | some [key, value] => some (setting fun s =>
        { s with environment := some ((s.environment.getD ∅).set key value) })
    | _ => none
  else none

/-- A call, given the text of the script. -/
def methodCall (text : String) : Recognizer Effect := do
  let method ← anyIdent
  let args ← group "("
  match (ofName? method : Option Relation), listCall? method with
  | some relation, _ => return relating text relation (splitArguments args)
  | none, some effect => return effect (← ofOption (stringArguments? args))
  | none, none => ofOption (valueCall? method args)

/-- An `onlyIf` statement, given the text of the script and the names of the declared variables. A
condition that is not understood is kept as a literal text. -/
def guardStatement (text : String) (declared : List String) : Recognizer Effect := do
  ident "onlyIf"
  let body ← group "\x7b"
  let significant := body.filter Token.isSignificant
  require (!significant.isEmpty)
  match guard? declared significant with
  | some g => return changing fun b => { b with condition := some g }
  | none =>
    let raw := spanned text significant
    return {
      apply := fun b => { b with
        condition := some { conditions := [⟨⟨.literal, raw⟩, .isTrue, {}⟩] } }
      warnings := [.unreadableGuard raw] }

/-- A statement on the options of a compiler. A setting that goes on beyond itself is incomplete. -/
def compilerOption : Recognizer Effect := do
  let property ← anyIdent
  let effect ←
    (if property = "encoding" then do
      op "="
      let value ← string
      return setting fun s => { s with encoding := some value }
    else if property = "isDeprecation" then do
      op "="
      let value ← boolean
      return setting fun s => { s with deprecation := some value }
    else if property = "isWarnings" then do
      op "="
      let value ← boolean
      return setting fun s => { s with warnings := some value }
    else if property = "compilerArgs" then do
      op "."
      let method ← anyIdent
      let args ← group "("
      let values ←
        (if method = "addAll" then
          within (do
            ident "listOf"
            let inner ← group "("
            let values ← ofOption (stringArguments? inner)
            finished
            return values) args
        else if method = "add" then do
          let value ← ofOption (singleString? args)
          return [value]
        else absent)
      return setting fun s => { s with compilerArgs := Settings.extend s.compilerArgs values }
    else absent)
  fun c => .found { effect with complete := c.atEnd } c

/-- The joint effect of the statements on compiler options, up to the first that is not
understood. -/
def compilerOptions : List (List Token) → Effect
  | [] => changing id
  | tokens :: rest =>
    match compilerOption ⟨tokens, 0⟩ with
    | .found effect _ =>
      if effect.complete then
        let more := compilerOptions rest
        { more with apply := fun b => more.apply (effect.apply b) }
      else effect
    | _ => { apply := id, complete := false }

/-- A statement on compiler options, or a block of them. -/
def optionsStatement : Recognizer Effect := do
  ident "options"
  op "."
  (do
    ident "apply"
    let body ← group "\x7b"
    fun c => match split body with
      | .ok statements => .found (compilerOptions statements) c
      | .error cause => .stopped (.unbalanced cause)) <|>
  compilerOption

/-- The readings of a statement, in the order in which they are tried. -/
def statementReadings (text : String) (declared : List String) : List (Recognizer Effect) :=
  [assignment, setterCall, methodCall text, guardStatement text declared, optionsStatement]

/-- Reads a statement of a body in one way after another, until one understands all of it. Every
reading that finds something has its effect, also one that leaves something over. -/
def readStatement (tokens : List Token) :
    List (Recognizer Effect) → Block → Except IntegerStop (Block × List BodyWarning)
  | [], b => .ok (b, [])
  | reading :: more, b =>
    match reading ⟨tokens, 0⟩ with
    | .absent => readStatement tokens more b
    | .stopped (.integer cause) => .error cause
    | .stopped (.unbalanced _) => .ok (b, [])
    | .found effect rest =>
      let changed := effect.apply b
      if effect.complete && rest.atEnd then .ok (changed, effect.warnings)
      else (readStatement tokens more changed).map fun r => (r.1, effect.warnings ++ r.2)

/-- Reads the statements of a body one after another. -/
def readBody (text : String) (declared : List String) :
    List (List Token) → Block → Except IntegerStop (Block × List BodyWarning)
  | [], b => .ok (b, [])
  | tokens :: rest, b => do
    let (b, warnings) ← readStatement tokens (statementReadings text declared) b
    let (b, more) ← readBody text declared rest b
    return (b, warnings ++ more)

/-- Turns a command that does nothing but run curl into an HTTP request. -/
def recoverRequest (b : Block) : Except IntegerStop Block :=
  match b.settings.commandLine with
  | some ("curl" :: args) =>
    if b.kind = .exec && b.settings = { commandLine := b.settings.commandLine } then do
      match ← HttpConfig.ofCurl? args with
      | some request => return { b with kind := .httpRequest, request := some request }
      | none => return b
    else .ok b
  | _ => .ok b

/-- The step of a block. -/
def Block.step (b : Block) : Step :=
  match b.request with
  | some request => .httpRequest request
  | none => b.settings.step b.kind

end BuildGraph.Script
