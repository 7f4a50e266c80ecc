import BuildGraph.Proofs.Script.BlockText
import BuildGraph.Proofs.Table

/-!
# The lines of what a task does

The lines that are written for a step are readable, kind by kind: reading them gives a block the
settings of the step. `Step.settings` collects them, and `Readable` of `stepLines` is put together
from one statement for each way to write a setting.
-/

namespace BuildGraph.Script

open BuildGraph.Number

/-- A text that is there and not empty. -/
def presentText (value : Option String) : Option String := value.filter (· ≠ "")

/-- A setting with further texts, if there are any. -/
def extendBy (old : Option (List String)) (values : List String) : Option (List String) :=
  if values.isEmpty then old else Settings.extend old values

/-- A setting that is switched on if a mark is present. -/
def switchTo (value : Bool) (present : Bool) (old : Option Bool) : Option Bool :=
  if present then some value else old

/-- A table with further entries, if there are any. -/
def setAll (old : Option TextTable) (entries : List (String × String)) : Option TextTable :=
  entries.foldl (fun t entry => some ((t.getD ∅).set entry.1 entry.2)) old

variable {line method : String} {signs : List Sign} {writer : String → String}
  {signsOf : String → List Sign}

section Writers

theorem readable_optionalLine (change : Option String → Block → Block) (hnone : change none = id)
    (hwritten : ∀ v, Written (writer v) (signsOf v))
    (hread : ∀ v, Understood (signsOf v) (change (some v))) (value : Option String) :
    Readable (optionalLine writer value) (change (presentText value)) := by
  cases value with
  | none =>
      rw [show presentText none = none from rfl, hnone]
      exact .nil
  | some v =>
      by_cases hv : v = ""
      · subst hv
        rw [show presentText (some "") = none from rfl, hnone]
        exact .nil
      · have hpresent : presentText (some v) = some v := by simp [presentText, hv]
        rw [hpresent, optionalLine]
        simp only [hv, if_false]
        exact .of_line (hwritten v) (hread v)

theorem readable_flagLine {change : Bool → Block → Block} (hfalse : change false = id)
    (hwritten : Written line signs) (hread : Understood signs (change true)) (present : Bool) :
    Readable (flagLine line present) (change present) := by
  cases present with
  | false =>
      rw [hfalse]
      exact .nil
  | true => exact .of_line hwritten hread

/-- An integer that a script can give: it is not negative, and its digits are not too many. -/
def Printable (value : Option Int) : Prop :=
  ∀ k ∈ value, 0 ≤ k ∧ (toString k).length ≤ maxDigits

/-- A way to change one list among the settings. -/
structure ListSetting (modify : (Option (List String) → Option (List String)) → Settings → Settings)
    (method : String) : Prop where
  named : isIdentifier method.toList = true
  unchanged : modify id = id
  twice : ∀ f g, modify f ∘ modify g = modify (f ∘ g)
  read : ∀ values, Understood (call method (literals values))
    (onSettings (modify fun old => Settings.extend old values))

variable {modify : (Option (List String) → Option (List String)) → Settings → Settings}

/-- One change of the settings comes after another. -/
theorem Readable.andThen {lines more : List String} {f g : Settings → Settings}
    (h : Readable lines (onSettings f)) (hmore : Readable more (onSettings g)) :
    Readable (lines ++ more) (onSettings (g ∘ f)) :=
  h.append hmore

theorem Readable.of_settings {lines : List String} {f g : Settings → Settings}
    (h : Readable lines (onSettings f)) (heq : ∀ s, f s = g s) : Readable lines (onSettings g) :=
  funext heq ▸ h

/-- All texts are given in one call. -/
theorem readable_callLine (h : ListSetting modify method) (values : List String) :
    Readable (callLine method values) (onSettings (modify fun old => extendBy old values)) := by
  cases values with
  | nil =>
      rw [show (fun old => extendBy old []) = id from rfl, h.unchanged]
      exact .nil
  | cons v values => exact .of_line ((written_quoteAll _).call method h.named) (h.read _)

/-- Each text is given in a call of its own. -/
theorem readable_eachCall (h : ListSetting modify method) (values : List String) :
    Readable (eachCall method values) (onSettings (modify fun old => extendBy old values)) := by
  induction values with
  | nil =>
      rw [show (fun old => extendBy old []) = id from rfl, h.unchanged]
      exact .nil
  | cons v values ih =>
      have hsplit : (fun old => extendBy old (v :: values)) =
          (fun old => extendBy old values) ∘ fun old => Settings.extend old [v] := by
        funext old
        cases values <;> simp [extendBy, Settings.extend]
      have hcall : Readable [method ++ "(" ++ quote v ++ ")"]
          (onSettings (modify fun old => Settings.extend old [v])) :=
        .of_line ((written_quote v).call method h.named) (h.read [v])
      rw [hsplit, ← h.twice]
      exact hcall.append ih

end Writers

section Lists

theorem listSetting_from : ListSetting (fun f s => { s with fromPaths := f s.fromPaths }) "from" :=
  ⟨by decide, rfl, fun _ _ => rfl, understood_list (by decide) rfl⟩

theorem listSetting_include :
    ListSetting (fun f s => { s with includes := f s.includes }) "include" :=
  ⟨by decide, rfl, fun _ _ => rfl, understood_list (by decide) rfl⟩

theorem listSetting_exclude :
    ListSetting (fun f s => { s with excludes := f s.excludes }) "exclude" :=
  ⟨by decide, rfl, fun _ _ => rfl, understood_list (by decide) rfl⟩

theorem listSetting_commandLine :
    ListSetting (fun f s => { s with commandLine := f s.commandLine }) "commandLine" :=
  ⟨by decide, rfl, fun _ _ => rfl, understood_list (by decide) rfl⟩

theorem listSetting_args : ListSetting (fun f s => { s with args := f s.args }) "args" :=
  ⟨by decide, rfl, fun _ _ => rfl, understood_list (by decide) rfl⟩

theorem listSetting_jvmArgs :
    ListSetting (fun f s => { s with jvmArgs := f s.jvmArgs }) "jvmArgs" :=
  ⟨by decide, rfl, fun _ _ => rfl, understood_list (by decide) rfl⟩

theorem listSetting_delete : ListSetting (fun f s => { s with delete := f s.delete }) "delete" :=
  ⟨by decide, rfl, fun _ _ => rfl, understood_list (by decide) rfl⟩

end Lists

section Steps

/-- Setting a property to a text, when there is one. -/
theorem readable_textProperty (property : String) (change : Option String → Block → Block)
    (hnone : change none = id)
    (hnamed : isIdentifier property.toList = true) (hplain : property ∉ structuredProperties)
    (h : textProperty? property = some fun v => changing (change (some v)))
    (value : Option String) :
    Readable (optionalLine (fun s => property ++ " = " ++ quote s) value)
      (change (presentText value)) :=
  readable_optionalLine change hnone (fun v => (written_quote v).assigned property hnamed)
    (understood_text hplain h) value

/-- Setting a property to a truth value, when it differs from what holds anyway. -/
theorem readable_booleanProperty (property : String) (value : Bool) (change : Bool → Block → Block)
    {set : Bool → Block → Block} (hfalse : change false = id) (htrue : change true = set value)
    (hnamed : isIdentifier property.toList = true) (hplain : property ∉ structuredProperties)
    (htext : textProperty? property = none)
    (h : booleanProperty? property = some fun v => changing (set v)) (present : Bool) :
    Readable (flagLine (property ++ " = " ++ toString value) present) (change present) := by
  have hvalue : Written (toString value) [.ident (toString value)] := by
    cases value <;> exact written_word (by decide)
  refine readable_flagLine hfalse (hvalue.assigned property hnamed) ?_ present
  rw [htrue]
  exact understood_boolean hplain htext h value

theorem readable_environment (entries : List (String × String)) :
    Readable (entries.map fun e => "environment(" ++ quote e.1 ++ ", " ++ quote e.2 ++ ")")
      (onSettings fun s => { s with environment := setAll s.environment entries }) := by
  induction entries with
  | nil => exact .nil
  | cons e entries ih =>
      have hcall : Written ("environment(" ++ quote e.1 ++ ", " ++ quote e.2 ++ ")")
          (call "environment" (literals [e.1, e.2])) := by
        have hargs := (written_quote e.1).append_comma (written_quote e.2)
        exact (hargs.call "environment" (by decide)).of_eq (by simp) rfl
      exact (Readable.of_line hcall (understood_environment e.1 e.2)).append ih

theorem readable_duplicates (value : Option Duplicates) :
    Readable (duplicatesLine value)
      (onSettings fun s => { s with duplicates := value.or s.duplicates }) := by
  cases value with
  | none => exact .nil
  | some d =>
      have hname : Expression d.name [.ident d.name] := by
        cases d <;> exact expression_word (by decide)
      have hvalue : Expression ("DuplicatesStrategy" ++ "." ++ d.name)
          ([.ident "DuplicatesStrategy"] ++ .op "." :: [.ident d.name]) :=
        (expression_word (by decide)).append "." rfl hname
      exact .of_line ((hvalue.written.assigned "duplicatesStrategy" (by decide)).of_eq
        (by simp) rfl) (understood_duplicates d)

theorem readable_exec (c : ExecConfig) :
    Readable (execLines c) (onSettings fun s => { s with
      commandLine := extendBy s.commandLine c.commandLine
      workingDir := (presentText c.workingDir).or s.workingDir
      args := extendBy s.args c.args
      environment := setAll s.environment c.environment.entries
      ignoreExitValue := switchTo true c.ignoreExitValue s.ignoreExitValue }) := by
  have hdir : ∀ v, Written ("workingDir = file(" ++ quote v ++ ")")
      (assigned "workingDir" (call "file" [.string v])) := fun v =>
    (((written_quote v).call "file" (by decide)).assigned "workingDir"
      (by decide)).of_eq (by simp) rfl
  have hworkingDir := readable_optionalLine
    (fun o => onSettings fun s => { s with workingDir := o.or s.workingDir })
    rfl hdir understood_workingDir c.workingDir
  have hignore := readable_booleanProperty "isIgnoreExitValue" true
    (fun p => onSettings fun s => { s with ignoreExitValue := switchTo true p s.ignoreExitValue })
    rfl rfl (by decide) (by decide) (by decide) rfl c.ignoreExitValue
  exact ((((readable_callLine listSetting_commandLine c.commandLine).andThen hworkingDir).andThen
    (readable_callLine listSetting_args c.args)).andThen
    (readable_environment c.environment.entries)).andThen hignore |>.of_settings
    fun s => by simp only [Function.comp_apply]

theorem readable_into (value : String) :
    Readable (if value = "" then [] else ["into(" ++ quote value ++ ")"])
      (onSettings fun s => { s with into := (presentText (some value)).or s.into }) := by
  by_cases h : value = ""
  · subst h
    exact .nil
  · have hpresent : presentText (some value) = some value := by simp [presentText, h]
    rw [if_neg h, hpresent]
    exact .of_line (((written_quote value).call "into" (by decide)).of_eq (by simp) rfl)
      (understood_into value)

theorem readable_copy (c : CopyConfig) :
    Readable (copyLines c) (onSettings fun s => { s with
      fromPaths := extendBy s.fromPaths c.fromPaths
      into := (presentText (some c.into)).or s.into
      includes := extendBy s.includes c.includes
      excludes := extendBy s.excludes c.excludes
      duplicates := c.duplicates.or s.duplicates }) :=
  ((((readable_eachCall listSetting_from c.fromPaths).andThen (readable_into c.into)).andThen
    (readable_eachCall listSetting_include c.includes)).andThen
    (readable_eachCall listSetting_exclude c.excludes)).andThen (readable_duplicates c.duplicates)
    |>.of_settings fun s => by simp only [Function.comp_apply]

theorem readable_delete (c : DeleteConfig) :
    Readable (deleteLines c) (onSettings fun s => { s with
      delete := extendBy s.delete c.delete
      followSymlinks := switchTo true c.followSymlinks s.followSymlinks }) := by
  have hfollow := readable_booleanProperty "followSymlinks" true
    (fun p => onSettings fun s => { s with followSymlinks := switchTo true p s.followSymlinks })
    rfl rfl (by decide) (by decide) (by decide) rfl c.followSymlinks
  exact ((readable_callLine listSetting_delete c.delete).andThen hfollow).of_settings
    fun s => by simp only [Function.comp_apply]

theorem readable_archive (c : ArchiveConfig) :
    Readable (archiveLines c) (onSettings fun s => { s with
      fromPaths := extendBy s.fromPaths c.fromPaths
      archiveFileName := (presentText c.archiveFileName).or s.archiveFileName
      destinationDirectory := (presentText c.destinationDirectory).or s.destinationDirectory
      includes := extendBy s.includes c.includes
      excludes := extendBy s.excludes c.excludes
      duplicates := c.duplicates.or s.duplicates
      preserveFileTimestamps :=
        switchTo false (!c.preserveFileTimestamps) s.preserveFileTimestamps }) := by
  have hname := readable_textProperty "archiveFileName"
    (fun o => onSettings fun s => { s with archiveFileName := o.or s.archiveFileName })
    rfl (by decide) (by decide) rfl c.archiveFileName
  have hwritten : ∀ v,
      Written ("destinationDirectory = layout.projectDirectory.dir(" ++ quote v ++ ")")
      (assigned "destinationDirectory" (projectDirectory v)) := by
    intro v
    have hlayout : Expression "layout" [.ident "layout"] := expression_word (by decide)
    have hproject : Expression "projectDirectory" [.ident "projectDirectory"] :=
      expression_word (by decide)
    have hcall : Expression ("dir" ++ "(" ++ quote v ++ ")") (call "dir" [.string v]) :=
      expression_call (by decide) (written_quote v)
    have hvalue := (hlayout.append "." rfl hproject).append "." rfl hcall
    exact (hvalue.written.assigned "destinationDirectory" (by decide)).of_eq (by simp) rfl
  have hdirectory := readable_optionalLine
    (fun o => onSettings fun s => { s with destinationDirectory := o.or s.destinationDirectory })
    rfl hwritten understood_destinationDirectory c.destinationDirectory
  have hpreserve := readable_booleanProperty "isPreserveFileTimestamps" false
    (fun p => onSettings fun s =>
      { s with preserveFileTimestamps := switchTo false p s.preserveFileTimestamps })
    rfl rfl (by decide) (by decide) (by decide) rfl (!c.preserveFileTimestamps)
  exact ((((((readable_eachCall listSetting_from c.fromPaths).andThen hname).andThen
    hdirectory).andThen (readable_eachCall listSetting_include c.includes)).andThen
    (readable_eachCall listSetting_exclude c.excludes)).andThen
    (readable_duplicates c.duplicates)).andThen hpreserve
    |>.of_settings fun s => by simp only [Function.comp_apply]

end Steps

section CompilerOptions

/-- Reading the lines inside a block of compiler options changes the settings. -/
def ReadableOptions (lines : List String) (change : Settings → Settings) : Prop :=
  ∃ options : List (List Sign × (Settings → Settings)),
    List.Forall₂ (fun line o => Written line o.1) lines options ∧
      (∀ o ∈ options, UnderstoodOption o.1 o.2) ∧
      ∀ s, options.foldl (fun s o => o.2 s) s = change s

variable {lines more : List String} {f g : Settings → Settings}

theorem ReadableOptions.nil : ReadableOptions [] id :=
  ⟨[], .nil, by simp, fun _ => rfl⟩

theorem ReadableOptions.of_line (h : Written line signs) (hread : UnderstoodOption signs f) :
    ReadableOptions [line] f :=
  ⟨[(signs, f)], .cons h .nil, by simpa using hread, fun _ => rfl⟩

theorem ReadableOptions.append (h : ReadableOptions lines f) (hmore : ReadableOptions more g) :
    ReadableOptions (lines ++ more) (g ∘ f) := by
  obtain ⟨options, hwritten, hread, hchange⟩ := h
  obtain ⟨moreOptions, hmoreWritten, hmoreRead, hmoreChange⟩ := hmore
  refine ⟨options ++ moreOptions, List.rel_append hwritten hmoreWritten, ?_, fun s => ?_⟩
  · exact fun o ho => (List.mem_append.1 ho).elim (hread o) (hmoreRead o)
  · rw [List.foldl_append, hchange, hmoreChange, Function.comp_apply]

theorem ReadableOptions.of_eq (h : ReadableOptions lines f) (heq : ∀ s, f s = g s) :
    ReadableOptions lines g :=
  funext heq ▸ h

theorem intercalate_newline_concat (signs : List (List Sign)) (last : List Sign) :
    List.intercalate [.newline] (signs ++ [last]) = signs.flatMap (· ++ [.newline]) ++ last := by
  induction signs with
  | nil => simp
  | cons first signs ih =>
      have hne : signs ++ [last] ≠ [] := by simp
      obtain ⟨second, others, hcons⟩ := List.exists_cons_of_ne_nil hne
      rw [List.cons_append, hcons, List.intercalate_cons_cons, ← hcons, ih, List.flatMap_cons]
      simp

/-- The line that opens a block of compiler options is written. -/
theorem written_optionsOpening : Written "options.apply \x7b"
    [.ident "options", .op ".", .ident "apply", .op "\x7b"] := by
  have hoptions : Expression "options" [.ident "options"] := expression_word (by decide)
  have happly : Expression "apply" [.ident "apply"] := expression_word (by decide)
  have hopen : Written "\x7b" [.op "\x7b"] := written_mark _ (by simp [operators_eq]) (by simp)
  exact ((hoptions.append "." rfl happly).written.append_blank hopen).of_eq (by simp) rfl

/-- A block of compiler options is one statement over several lines. -/
theorem clause_options {options : List (List Sign × (Settings → Settings))}
    (hwritten : List.Forall₂ (fun line o => Written line o.1) lines options)
    (hread : ∀ o ∈ options, UnderstoodOption o.1 o.2) :
    Clause ("options.apply \x7b" :: (lines.map (indent ++ ·) ++ ["\x7d"]))
      (onSettings fun s => options.foldl (fun s o => o.2 s) s) := by
  have hclose : Written "\x7d" [.op "\x7d"] := written_mark _ (by simp [operators_eq]) (by simp)
  have hinside : List.Forall₂ (fun line signs => Scans line.toList signs)
      (lines.map (indent ++ ·)) (options.map Prod.fst) :=
    List.forall₂_map_left_iff.2 (List.forall₂_map_right_iff.2
      (hwritten.imp fun _ _ h => h.scans.indented))
  have hsigns : List.intercalate [.newline]
      ([.ident "options", .op ".", .ident "apply", .op "\x7b"] ::
        (options.map Prod.fst ++ [[.op "\x7d"]])) = optionsBlock (options.map Prod.fst) := by
    rw [← List.cons_append, intercalate_newline_concat, List.flatMap_cons, optionsBlock]
    simp
  refine ⟨_ :: (options.map Prod.fst ++ [[.op "\x7d"]]),
    .cons written_optionsOpening.scans (List.rel_append hinside (.cons hclose.scans .nil)), ?_, ?_⟩
  · simp only [List.mem_cons, List.mem_append, List.mem_map, List.not_mem_nil, or_false]
    rintro s (rfl | ⟨p, hp, rfl⟩ | rfl)
    · simp
    · obtain ⟨name, tail, hstart⟩ := (hread p hp).statement.starts
      simp [hstart]
    · simp
  · rw [hsigns]
    exact understood_options hread

/-- The lines of compiler options are read, and no options need no lines. -/
theorem ReadableOptions.readable (h : ReadableOptions lines f) :
    Readable (if lines.isEmpty then []
      else "options.apply \x7b" :: (lines.map (indent ++ ·) ++ ["\x7d"])) (onSettings f) := by
  obtain ⟨options, hwritten, hread, hchange⟩ := h
  obtain rfl : (fun s => options.foldl (fun s o => o.2 s) s) = f := funext hchange
  cases hwritten with
  | nil => exact .nil
  | cons hline hlines =>
      simpa using Readable.clause (clause_options (.cons hline hlines) hread) .nil

theorem readableOptions_encoding (value : Option String) :
    ReadableOptions (optionalLine (fun s => "encoding = " ++ quote s) value)
      fun s => { s with encoding := (presentText value).or s.encoding } := by
  cases value with
  | none => exact .nil
  | some v =>
      by_cases hv : v = ""
      · subst hv
        exact .nil
      · have hpresent : presentText (some v) = some v := by simp [presentText, hv]
        rw [hpresent, optionalLine, if_neg hv]
        exact .of_line (((written_quote v).assigned "encoding" (by decide)).of_eq (by simp) rfl)
          (understoodOption_encoding v)

theorem readableOptions_compilerArgs (values : List String) :
    ReadableOptions
      (if values.isEmpty then [] else ["compilerArgs.addAll(listOf(" ++ quoteAll values ++ "))"])
      fun s => { s with compilerArgs := extendBy s.compilerArgs values } := by
  cases values with
  | nil => exact .nil
  | cons v values =>
      have hargs : Expression "compilerArgs" [.ident "compilerArgs"] := expression_word (by decide)
      have hlist := (written_quoteAll (v :: values)).call "listOf" (by decide)
      have hcall := hargs.append "." rfl (expression_call (show isIdentifier "addAll".toList = true
        by decide) hlist)
      exact .of_line (hcall.written.of_eq (by simp) rfl) (understoodOption_compilerArgs _)

theorem readableOptions_deprecation (present : Bool) :
    ReadableOptions (flagLine "isDeprecation = true" present)
      fun s => { s with deprecation := switchTo true present s.deprecation } := by
  have hvalue : Written "true" [.ident "true"] := written_word (by decide)
  cases present with
  | false => exact .nil
  | true =>
      exact .of_line ((hvalue.assigned "isDeprecation" (by decide)).of_eq (by simp) rfl)
        (understoodOption_deprecation true)

theorem readableOptions_warnings (present : Bool) :
    ReadableOptions (flagLine "isWarnings = false" present)
      fun s => { s with warnings := switchTo false present s.warnings } := by
  have hvalue : Written "false" [.ident "false"] := written_word (by decide)
  cases present with
  | false => exact .nil
  | true =>
      exact .of_line ((hvalue.assigned "isWarnings" (by decide)).of_eq (by simp) rfl)
        (understoodOption_warnings false)

theorem readableOptions_compiler (c : JavaCompileConfig) :
    ReadableOptions (compilerLines c) fun s => { s with
      encoding := (presentText c.encoding).or s.encoding
      compilerArgs := extendBy s.compilerArgs c.compilerArgs
      deprecation := switchTo true c.deprecation s.deprecation
      warnings := switchTo false (!c.warnings) s.warnings } :=
  (((readableOptions_encoding c.encoding).append
    (readableOptions_compilerArgs c.compilerArgs)).append
    (readableOptions_deprecation c.deprecation)).append (readableOptions_warnings (!c.warnings))
    |>.of_eq fun s => by simp only [Function.comp_apply]

theorem readable_javaCompile (c : JavaCompileConfig) :
    Readable (javaCompileLines c) (onSettings fun s => { s with
      sourceCompatibility := (presentText c.sourceCompatibility).or s.sourceCompatibility
      targetCompatibility := (presentText c.targetCompatibility).or s.targetCompatibility
      encoding := (presentText c.encoding).or s.encoding
      compilerArgs := extendBy s.compilerArgs c.compilerArgs
      deprecation := switchTo true c.deprecation s.deprecation
      warnings := switchTo false (!c.warnings) s.warnings }) := by
  have hsource := readable_textProperty "sourceCompatibility"
    (fun o => onSettings fun s => { s with sourceCompatibility := o.or s.sourceCompatibility })
    rfl (by decide) (by decide) rfl c.sourceCompatibility
  have htarget := readable_textProperty "targetCompatibility"
    (fun o => onSettings fun s => { s with targetCompatibility := o.or s.targetCompatibility })
    rfl (by decide) (by decide) rfl c.targetCompatibility
  exact ((hsource.andThen htarget).andThen (readableOptions_compiler c).readable).of_settings
    fun s => by simp only [Function.comp_apply]

end CompilerOptions

section Readings

theorem readable_http (comments : Bool) (c : HttpConfig) :
    Readable (httpLines comments c) (onSettings fun s =>
      { s with commandLine := Settings.extend s.commandLine ("curl" :: c.curlArguments) }) := by
  have hcall := readable_callLine listSetting_commandLine ("curl" :: c.curlArguments)
  cases comments with
  | false => exact hcall
  | true =>
      have hwords : ∀ x ∈ " HTTP Request (using curl)".toList, x ≠ '\n' := by simp
      exact Readable.remark hwords hcall

/-- The settings that are read from the lines of a step. -/
def stepSettings : Step → Settings
  | .exec c => {
      commandLine := extendBy none c.commandLine
      workingDir := presentText c.workingDir
      args := extendBy none c.args
      environment := setAll none c.environment.entries
      ignoreExitValue := switchTo true c.ignoreExitValue none }
  | .copy c | .processResources c => {
      fromPaths := extendBy none c.fromPaths
      into := presentText (some c.into)
      includes := extendBy none c.includes
      excludes := extendBy none c.excludes
      duplicates := c.duplicates }
  | .delete c => {
      delete := extendBy none c.delete
      followSymlinks := switchTo true c.followSymlinks none }
  | .zip c | .jar c => {
      fromPaths := extendBy none c.fromPaths
      archiveFileName := presentText c.archiveFileName
      destinationDirectory := presentText c.destinationDirectory
      includes := extendBy none c.includes
      excludes := extendBy none c.excludes
      duplicates := c.duplicates
      preserveFileTimestamps := switchTo false (!c.preserveFileTimestamps) none }
  | .test c => {
      includes := extendBy none c.includes
      excludes := extendBy none c.excludes
      maxParallelForks := c.maxParallelForks
      forkEvery := c.forkEvery
      failFast := switchTo true c.failFast none
      ignoreFailures := switchTo true c.ignoreFailures none
      jvmArgs := extendBy none c.jvmArgs }
  | .javaCompile c => {
      sourceCompatibility := presentText c.sourceCompatibility
      targetCompatibility := presentText c.targetCompatibility
      encoding := presentText c.encoding
      compilerArgs := extendBy none c.compilerArgs
      deprecation := switchTo true c.deprecation none
      warnings := switchTo false (!c.warnings) none }
  | .httpRequest c => { commandLine := some ("curl" :: c.curlArguments) }
  | .custom => {}

/-- The integers among the settings of a step can be given in a script. -/
def PrintableStep : Step → Prop
  | .test c => Printable c.maxParallelForks ∧ Printable c.forkEvery
  | _ => True

/-- The lines of a step without integers are read as its settings. -/
theorem readable_step (comments : Bool) (step : Step) (h : ∀ c, step ≠ .test c) :
    ∃ change, Readable (stepLines comments step) (onSettings change) ∧
      change {} = stepSettings step := by
  cases step with
  | exec c => exact ⟨_, readable_exec c, by simp [stepSettings]⟩
  | copy c => exact ⟨_, readable_copy c, by simp [stepSettings]⟩
  | delete c => exact ⟨_, readable_delete c, by simp [stepSettings]⟩
  | zip c => exact ⟨_, readable_archive c, by simp [stepSettings]⟩
  | jar c => exact ⟨_, readable_archive c, by simp [stepSettings]⟩
  | test c => exact absurd rfl (h c)
  | javaCompile c => exact ⟨_, readable_javaCompile c, by simp [stepSettings]⟩
  | processResources c => exact ⟨_, readable_copy c, by simp [stepSettings]⟩
  | httpRequest c =>
      exact ⟨_, readable_http comments c, by simp [stepSettings, Settings.extend]⟩
  | custom => exact ⟨id, .nil, rfl⟩

/-- The step that a script keeps: empty texts that may be absent are, and a request is what its
command is read as. -/
def keptStep : Step → Step
  | .exec c => .exec { c with workingDir := presentText c.workingDir }
  | .zip c => .zip { c with
      archiveFileName := presentText c.archiveFileName
      destinationDirectory := presentText c.destinationDirectory }
  | .jar c => .jar { c with
      archiveFileName := presentText c.archiveFileName
      destinationDirectory := presentText c.destinationDirectory }
  | .javaCompile c => .javaCompile { c with
      sourceCompatibility := presentText c.sourceCompatibility
      targetCompatibility := presentText c.targetCompatibility
      encoding := presentText c.encoding }
  | .httpRequest c =>
    match HttpConfig.ofCurl? c.curlArguments with
    | .ok (some read) => .httpRequest read
    | _ => .httpRequest c
  | step => step

theorem extendBy_none (values : List String) : (extendBy none values).getD [] = values := by
  cases values <;> simp [extendBy, Settings.extend]

theorem switchTo_none (present : Bool) :
    (switchTo true present none).getD false = present ∧
      (switchTo false (!present) none).getD true = present := by
  cases present <;> exact ⟨rfl, rfl⟩

theorem presentText_getD (value : String) : (presentText (some value)).getD "" = value := by
  by_cases h : value = "" <;> simp [presentText, h, Option.filter]

theorem setAll_getD (old : Option TextTable) (entries : List (String × String)) :
    (setAll old entries).getD ∅ = entries.foldl (fun t e => t.set e.1 e.2) (old.getD ∅) := by
  induction entries generalizing old with
  | nil => rfl
  | cons e entries ih => exact ih _

/-- A table is put together again from its entries. -/
theorem setAll_entries (t : TextTable) : (setAll none t.entries).getD ∅ = t := by
  rw [setAll_getD]
  exact Table.ofList_entries t

/-- The settings that are read make the step that is kept. -/
theorem stepSettings_step {step : Step} (h : step.kind ≠ .httpRequest) :
    (stepSettings step).step step.kind = keptStep step := by
  cases step with
  | httpRequest c => exact absurd rfl h
  | _ =>
      simp [stepSettings, keptStep, Step.kind, Settings.step, Settings.exec, Settings.copy,
        Settings.archive, Settings.test, Settings.javaCompile, extendBy_none, switchTo_none,
        presentText_getD, setAll_entries]

end Readings

end BuildGraph.Script
