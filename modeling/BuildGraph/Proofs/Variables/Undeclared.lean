import BuildGraph.Proofs.Script.Requests
import BuildGraph.Proofs.Variables.References
import BuildGraph.Script.Check

/-!
# Undeclared variables

Before a script is written, the settings of each task are searched for references to variables that
are not declared. The search goes through the settings record by record, and the lines of a task are
written field by field; `mem_references_shownTexts` compares the two for all kinds of tasks. What
the search passes over are the names in tables, which are those of environment variables and of
headers: `undeclared_spec` says so, and that nothing else is missed.
-/

namespace BuildGraph

open Script

section Literals

variable {line method : String} {signs : List Script.Sign} {lines more : List String}

/-- The text of a string literal. -/
def Script.literalText? (s : Script.Sign) : Option String :=
  if s.1 = .string then some s.2 else none

/-- The texts of the string literals in a line of a script. -/
def Script.literalTexts (line : String) : List String :=
  (scan line).tokens.filterMap fun t => literalText? t.sign

theorem literalTexts_of_scans (h : Scans line.toList signs) :
    literalTexts line = signs.filterMap literalText? := by
  obtain ⟨tokens, hshows, hscan⟩ := h.whole
  rw [literalTexts, show scan line = ⟨tokens, []⟩ from hscan, ← hshows.signs, List.filterMap_map]
  rfl

theorem literalTexts_of_written (h : Written line signs) :
    literalTexts line = signs.filterMap literalText? :=
  literalTexts_of_scans h.scans

theorem filterMap_literals (values : List String) :
    (literals values).filterMap literalText? = values := by
  induction values with
  | nil => rfl
  | cons v values ih =>
      cases values with
      | nil => rfl
      | cons w values =>
          have hcons : literals (v :: w :: values) =
              .string v :: .op "," :: literals (w :: values) := by
            simp [literals]
          rw [hcons]
          exact congrArg (v :: ·) ih

theorem filterMap_call (method : String) (signs : List Script.Sign) :
    (call method signs).filterMap literalText? = signs.filterMap literalText? := by
  simp [call, literalText?, Script.Sign.ident, Script.Sign.op]

/-- A call with texts holds them. -/
theorem literalTexts_callLine (h : isIdentifier method.toList = true) (values : List String) :
    (callLine method values).flatMap literalTexts = values := by
  cases values with
  | nil => rfl
  | cons v values =>
      rw [callLine, if_neg (by simp), List.flatMap_singleton,
        literalTexts_of_written ((written_quoteAll _).call method h), filterMap_call,
        filterMap_literals]

theorem literalTexts_eachCall (h : isIdentifier method.toList = true) (values : List String) :
    (eachCall method values).flatMap literalTexts = values := by
  rw [eachCall, List.flatMap_map]
  have hcall : ∀ v, literalTexts (method ++ "(" ++ quote v ++ ")") = [v] := fun v => by
    rw [literalTexts_of_written ((written_quote v).call method h), filterMap_call]
    rfl
  simp [hcall]

/-- A line for a text that is there and not empty holds the text. -/
theorem literalTexts_optionalLine {write : String → String} {signs : String → List Script.Sign}
    (h : ∀ v, Written (write v) (signs v)) (htexts : ∀ v, (signs v).filterMap literalText? = [v])
    (value : Option String) :
    (optionalLine write value).flatMap literalTexts = (presentText value).toList := by
  cases value with
  | none => rfl
  | some v =>
      rw [optionalLine, presentText, Option.filter_some]
      by_cases hv : v = ""
      · simp [hv]
      · simp [hv, literalTexts_of_written (h v), htexts]

/-- A property that is set to a text. -/
theorem literalTexts_textProperty (property : String) (h : isIdentifier property.toList = true)
    (value : Option String) :
    (optionalLine (fun s => property ++ " = " ++ quote s) value).flatMap literalTexts =
      (presentText value).toList :=
  literalTexts_optionalLine (fun v => (written_quote v).assigned property h) (fun _ => rfl) value

/-- A line without literals, which may be missing. -/
theorem literalTexts_flagLine (h : Written line signs) (hnone : signs.filterMap literalText? = [])
    (present : Bool) : (flagLine line present).flatMap literalTexts = [] := by
  cases present with
  | false => rfl
  | true => rw [flagLine, if_pos rfl, List.flatMap_singleton, literalTexts_of_written h, hnone]

/-- A property that is set to a truth value. -/
theorem literalTexts_booleanProperty (property : String)
    (h : isIdentifier property.toList = true) (value present : Bool) :
    (flagLine (property ++ " = " ++ toString value) present).flatMap literalTexts = [] := by
  have hvalue : Written (toString value) [.ident (toString value)] := by
    cases value <;> exact written_word (by decide)
  exact literalTexts_flagLine (hvalue.assigned property h) rfl present

theorem written_integer (n : Int) :
    ∃ signs, Written (toString n) signs ∧ signs.filterMap literalText? = [] := by
  cases n with
  | ofNat n => exact ⟨_, written_number n, rfl⟩
  | negSucc n =>
      have hminus : Spelled "-" [.operator "-"] :=
        spelled_operator (by simp [operators_eq]) (by simp)
      exact ⟨_, (hminus.append (spelled_number (n + 1)) (by simp [Piece.joins])).written, rfl⟩

theorem literalTexts_integerLine {property : String} (h : isIdentifier property.toList = true)
    (value : Option Int) : (integerLine property value).flatMap literalTexts = [] := by
  cases value with
  | none => rfl
  | some n =>
      obtain ⟨signs, hwritten, hnone⟩ := written_integer n
      rw [integerLine, List.flatMap_singleton,
        literalTexts_of_written (hwritten.assigned property h), assigned]
      exact hnone

theorem literalTexts_duplicatesLine (value : Option Duplicates) :
    (duplicatesLine value).flatMap literalTexts = [] := by
  cases value with
  | none => rfl
  | some d =>
      have hname : Expression d.name [.ident d.name] := by
        cases d <;> exact expression_word (by decide)
      have hvalue : Expression ("DuplicatesStrategy" ++ "." ++ d.name)
          ([.ident "DuplicatesStrategy"] ++ .op "." :: [.ident d.name]) :=
        (expression_word (by decide)).append "." rfl hname
      have hline := hvalue.written.assigned "duplicatesStrategy" (by decide)
      rw [duplicatesLine, List.flatMap_singleton,
        literalTexts_of_written (hline.of_eq (by simp) rfl)]
      rfl

end Literals

section Steps

/-- The texts that the lines for what a task does hold. -/
def Step.shownTexts : Step → List String
  | .exec c => c.commandLine ++ (presentText c.workingDir).toList ++ c.args ++
      c.environment.entries.flatMap fun e => [e.1, e.2]
  | .copy c | .processResources c =>
      c.fromPaths ++ (presentText (some c.into)).toList ++ c.includes ++ c.excludes
  | .delete c => c.delete
  | .zip c | .jar c =>
      c.fromPaths ++ (presentText c.archiveFileName).toList ++
        (presentText c.destinationDirectory).toList ++ c.includes ++ c.excludes
  | .test c => c.includes ++ c.excludes ++ c.jvmArgs
  | .javaCompile c =>
      (presentText c.sourceCompatibility).toList ++ (presentText c.targetCompatibility).toList ++
        (presentText c.encoding).toList ++ c.compilerArgs
  | .httpRequest c => "curl" :: c.curlArguments
  | .custom => []

theorem literalTexts_exec (c : ExecConfig) :
    (execLines c).flatMap literalTexts = (Step.exec c).shownTexts := by
  have hdir : ∀ v, Written ("workingDir = file(" ++ quote v ++ ")")
      (assigned "workingDir" (call "file" [.string v])) := fun v =>
    (((written_quote v).call "file" (by decide)).assigned "workingDir"
      (by decide)).of_eq (by simp) rfl
  have henvironment : ∀ e : String × String,
      literalTexts ("environment(" ++ quote e.1 ++ ", " ++ quote e.2 ++ ")") = [e.1, e.2] := by
    intro e
    have hargs := (written_quote e.1).append_comma (written_quote e.2)
    exact literalTexts_of_written ((hargs.call "environment" (by decide)).of_eq (by simp) rfl)
  have hignore :
      (flagLine "isIgnoreExitValue = true" c.ignoreExitValue).flatMap literalTexts = [] :=
    literalTexts_booleanProperty "isIgnoreExitValue" (by decide) true _
  simp only [execLines, List.flatMap_append, List.flatMap_map, henvironment, hignore,
    List.append_nil]
  rw [literalTexts_callLine (by decide), literalTexts_callLine (by decide),
    literalTexts_optionalLine hdir fun _ => rfl]
  rfl

theorem literalTexts_copy (c : CopyConfig) :
    (copyLines c).flatMap literalTexts = (Step.copy c).shownTexts := by
  have hinto : (if c.into = "" then [] else ["into(" ++ quote c.into ++ ")"]).flatMap literalTexts =
      (presentText (some c.into)).toList :=
    literalTexts_optionalLine (fun v => (written_quote v).call "into" (by decide)) (fun _ => rfl)
      (some c.into)
  simp only [copyLines, List.flatMap_append, hinto, literalTexts_duplicatesLine, List.append_nil]
  rw [literalTexts_eachCall (by decide), literalTexts_eachCall (by decide),
    literalTexts_eachCall (by decide)]
  rfl

theorem literalTexts_delete (c : DeleteConfig) :
    (deleteLines c).flatMap literalTexts = (Step.delete c).shownTexts := by
  have hfollow : (flagLine "followSymlinks = true" c.followSymlinks).flatMap literalTexts = [] :=
    literalTexts_booleanProperty "followSymlinks" (by decide) true _
  rw [deleteLines, List.flatMap_append, literalTexts_callLine (by decide), hfollow,
    List.append_nil]
  rfl

theorem literalTexts_archive (c : ArchiveConfig) :
    (archiveLines c).flatMap literalTexts = (Step.zip c).shownTexts := by
  have hname : (optionalLine (fun s => "archiveFileName = " ++ quote s) c.archiveFileName).flatMap
      literalTexts = (presentText c.archiveFileName).toList :=
    literalTexts_textProperty "archiveFileName" (by decide) _
  have hdirectory : ∀ v,
      Written ("destinationDirectory = layout.projectDirectory.dir(" ++ quote v ++ ")")
        (assigned "destinationDirectory" (projectDirectory v)) := by
    intro v
    have hlayout : Expression "layout" [.ident "layout"] := expression_word (by decide)
    have hproject : Expression "projectDirectory" [.ident "projectDirectory"] :=
      expression_word (by decide)
    have hcall : Expression ("dir" ++ "(" ++ quote v ++ ")") (call "dir" [.string v]) :=
      expression_call (by decide) (written_quote v)
    have hvalue := (hlayout.append "." rfl hproject).append "." rfl hcall
    exact (hvalue.written.assigned "destinationDirectory" (by decide)).of_eq (by simp) rfl
  have hpreserve : (flagLine "isPreserveFileTimestamps = false"
      (!c.preserveFileTimestamps)).flatMap literalTexts = [] :=
    literalTexts_booleanProperty "isPreserveFileTimestamps" (by decide) false _
  simp only [archiveLines, List.flatMap_append, hname, hpreserve, literalTexts_duplicatesLine,
    List.append_nil]
  rw [literalTexts_eachCall (by decide), literalTexts_eachCall (by decide),
    literalTexts_eachCall (by decide), literalTexts_optionalLine hdirectory fun _ => rfl]
  rfl

theorem literalTexts_test (c : TestConfig) :
    (testLines c).flatMap literalTexts = (Step.test c).shownTexts := by
  have hfast : (flagLine "failFast = true" c.failFast).flatMap literalTexts = [] :=
    literalTexts_booleanProperty "failFast" (by decide) true _
  have hignore : (flagLine "ignoreFailures = true" c.ignoreFailures).flatMap literalTexts = [] :=
    literalTexts_booleanProperty "ignoreFailures" (by decide) true _
  simp only [testLines, List.flatMap_append, hfast, hignore]
  rw [literalTexts_eachCall (by decide), literalTexts_eachCall (by decide),
    literalTexts_integerLine (by decide), literalTexts_integerLine (by decide),
    literalTexts_callLine (by decide)]
  simp [Step.shownTexts]

theorem literalTexts_compilerArgs (values : List String) :
    literalTexts ("compilerArgs.addAll(listOf(" ++ quoteAll values ++ "))") = values := by
  have hproperty : Expression "compilerArgs" [.ident "compilerArgs"] := expression_word (by decide)
  have hlist := (written_quoteAll values).call "listOf" (by decide)
  have hcall := hproperty.append "." rfl
    (expression_call (show isIdentifier "addAll".toList = true by decide) hlist)
  have hline : Written ("compilerArgs.addAll(listOf(" ++ quoteAll values ++ "))")
      (Script.Sign.ident "compilerArgs" :: Script.Sign.op "." ::
        call "addAll" (call "listOf" (literals values))) :=
    hcall.written.of_eq (by simp) rfl
  rw [literalTexts_of_written hline, List.filterMap_cons_none rfl, List.filterMap_cons_none rfl,
    filterMap_call, filterMap_call, filterMap_literals]

theorem literalTexts_compiler (c : JavaCompileConfig) :
    (compilerLines c).flatMap literalTexts = (presentText c.encoding).toList ++ c.compilerArgs := by
  have hencoding : (optionalLine (fun s => "encoding = " ++ quote s) c.encoding).flatMap
      literalTexts = (presentText c.encoding).toList :=
    literalTexts_textProperty "encoding" (by decide) _
  have hargs : (if c.compilerArgs.isEmpty then []
      else ["compilerArgs.addAll(listOf(" ++ quoteAll c.compilerArgs ++ "))"]).flatMap
        literalTexts = c.compilerArgs := by
    cases c.compilerArgs with
    | nil => rfl
    | cons v values => rw [if_neg (by simp), List.flatMap_singleton, literalTexts_compilerArgs]
  have hdeprecation : (flagLine "isDeprecation = true" c.deprecation).flatMap literalTexts = [] :=
    literalTexts_booleanProperty "isDeprecation" (by decide) true _
  have hwarnings : (flagLine "isWarnings = false" (!c.warnings)).flatMap literalTexts = [] :=
    literalTexts_booleanProperty "isWarnings" (by decide) false _
  simp only [compilerLines, List.flatMap_append, hencoding, hargs, hdeprecation, hwarnings,
    List.append_nil]

/-- Indentation adds no text to written lines. -/
theorem literalTexts_indented {α : Type} {lines : List String} {read : List (List Script.Sign × α)}
    (h : List.Forall₂ (fun line r => Written line r.1) lines read) :
    (lines.map (indent ++ ·)).flatMap literalTexts = lines.flatMap literalTexts := by
  induction h with
  | nil => rfl
  | cons hline _ ih =>
      rw [List.map_cons, List.flatMap_cons, List.flatMap_cons, ih, literalTexts_of_written hline,
        literalTexts_of_scans hline.scans.indented]

theorem literalTexts_options (c : JavaCompileConfig) :
    (if (compilerLines c).isEmpty then []
      else "options.apply \x7b" :: ((compilerLines c).map (indent ++ ·) ++ ["\x7d"])).flatMap
        literalTexts = (compilerLines c).flatMap literalTexts := by
  by_cases hempty : (compilerLines c).isEmpty
  · rw [if_pos hempty, List.isEmpty_iff.1 hempty]
  · have hclose : Written "\x7d" [.op "\x7d"] := written_mark _ (by simp [operators_eq]) (by simp)
    obtain ⟨options, hwritten, -⟩ := readableOptions_compiler c
    rw [if_neg hempty, List.flatMap_cons, List.flatMap_append, literalTexts_indented hwritten,
      List.flatMap_singleton, literalTexts_of_written written_optionsOpening,
      literalTexts_of_written hclose]
    simp [literalText?, Script.Sign.ident, Script.Sign.op]

theorem literalTexts_javaCompile (c : JavaCompileConfig) :
    (javaCompileLines c).flatMap literalTexts = (Step.javaCompile c).shownTexts := by
  have hsource : (optionalLine (fun s => "sourceCompatibility = " ++ quote s)
      c.sourceCompatibility).flatMap literalTexts = (presentText c.sourceCompatibility).toList :=
    literalTexts_textProperty "sourceCompatibility" (by decide) _
  have htarget : (optionalLine (fun s => "targetCompatibility = " ++ quote s)
      c.targetCompatibility).flatMap literalTexts = (presentText c.targetCompatibility).toList :=
    literalTexts_textProperty "targetCompatibility" (by decide) _
  rw [javaCompileLines, List.flatMap_append, List.flatMap_append, hsource, htarget,
    literalTexts_options, literalTexts_compiler, ← List.append_assoc]
  rfl

theorem literalTexts_http (comments : Bool) (c : HttpConfig) :
    (httpLines comments c).flatMap literalTexts = (Step.httpRequest c).shownTexts := by
  have hremark : (flagLine "// HTTP Request (using curl)" comments).flatMap literalTexts = [] := by
    cases comments with
    | false => rfl
    | true =>
        have hwords : ∀ x ∈ " HTTP Request (using curl)".toList, x ≠ '\n' := by simp
        have hline : Scans "// HTTP Request (using curl)".toList _ := scans_comment hwords
        exact (List.flatMap_singleton ..).trans (literalTexts_of_scans hline)
  have hcall := literalTexts_callLine (show isIdentifier "commandLine".toList = true by decide)
    ("curl" :: c.curlArguments)
  rw [httpLines, List.flatMap_append, hremark, List.nil_append]
  exact hcall

/-- The lines for what a task does hold its texts. -/
theorem literalTexts_stepLines (comments : Bool) (step : Step) :
    (stepLines comments step).flatMap literalTexts = step.shownTexts := by
  cases step with
  | exec c => exact literalTexts_exec c
  | copy c | processResources c => exact literalTexts_copy c
  | delete c => exact literalTexts_delete c
  | zip c | jar c => exact literalTexts_archive c
  | test c => exact literalTexts_test c
  | javaCompile c => exact literalTexts_javaCompile c
  | httpRequest c => exact literalTexts_http comments c
  | custom => rfl

end Steps

section Settings

open Document

variable {name : String}

theorem texts_ofTexts (texts : List String) : (ofTexts texts).texts = texts := by
  rw [ofTexts, Document.texts]
  induction texts with
  | nil => rfl
  | cons s texts ih => rw [List.map_cons, textsOfItems, ih, Document.texts, List.singleton_append]

theorem texts_ofTable (t : TextTable) : (ofTable t).texts = t.values := by
  rw [ofTable, Document.texts, Table.values]
  induction t.entries with
  | nil => rfl
  | cons e entries ih =>
      rw [List.map_cons, List.map_cons, textsOfFields, ih, Document.texts, List.singleton_append]

theorem texts_ofText? (value : Option String) : (ofText? value).texts = value.toList := by
  cases value <;> rfl

theorem texts_ofInt? (value : Option Int) : (ofInt? value).texts = [] := by
  cases value <;> rfl

/-- The ways to treat duplicates refer to no variables. -/
theorem references_duplicates (value : Option Duplicates) :
    ((value.map ofMember).getD null).texts.flatMap references = [] := by
  cases value with
  | none => rfl
  | some d => cases d <;> decide

/-- Texts that are left out where they are empty refer to the same variables. -/
theorem references_presentText (value : Option String) :
    (presentText value).toList.flatMap references = value.toList.flatMap references := by
  cases value with
  | none => rfl
  | some v =>
      rw [presentText, Option.filter_some]
      by_cases hv : v = ""
      · subst hv
        decide
      · simp [hv]

/-- The names in the table of a step: those of environment variables or of headers. -/
def Step.tableNames : Step → List String
  | .exec c => c.environment.keys
  | .httpRequest c => c.headers.keys
  | _ => []

/-- The references in what is shown of a table, if this is a name and a value for each entry. -/
theorem mem_references_entries {shown : String × String → List String}
    (h : ∀ e, name ∈ (shown e).flatMap references ↔ name ∈ references e.2 ∨ name ∈ references e.1)
    (t : TextTable) : name ∈ (t.entries.flatMap shown).flatMap references ↔
      name ∈ t.values.flatMap references ∨ name ∈ t.keys.flatMap references := by
  rw [Table.values, Table.keys]
  induction t.entries with
  | nil => simp
  | cons e entries ih =>
      rw [List.flatMap_cons, List.flatMap_append, List.mem_append, h, ih, List.map_cons,
        List.map_cons, List.flatMap_cons, List.flatMap_cons, List.mem_append, List.mem_append]
      exact Iff.of_eq (by ac_rfl)

theorem mem_references_header (e : String × String) :
    name ∈ ["-H", e.1 ++ ": " ++ e.2].flatMap references ↔
      name ∈ references e.2 ∨ name ∈ references e.1 := by
  have hbreaks : Breaks (": " ++ e.2).toList := by
    rw [String.toList_append]
    rintro c ⟨⟩
    decide
  rw [List.flatMap_cons, references_of_no_dollar (by decide), List.nil_append,
    List.flatMap_singleton, String.append_assoc, mem_references_append hbreaks,
    references_append_of_no_dollar (by decide)]
  exact or_comm

/-- A flag refers to no variable. -/
theorem references_flagged {flag : String} (h : '$' ∉ flag.toList) (value : Option String) :
    (HttpConfig.flagged flag value).flatMap references = value.toList.flatMap references := by
  rw [← references_presentText]
  cases hvalue : presentText value with
  | none =>
      rw [HttpConfig.flagged_of_absent hvalue]
      rfl
  | some v =>
      rw [HttpConfig.flagged_of_present hvalue, List.flatMap_cons, references_of_no_dollar h,
        List.nil_append]
      rfl

theorem references_contentType (value : Option String) :
    (HttpConfig.contentTypeArguments value).flatMap references =
      value.toList.flatMap references := by
  cases value with
  | none => rfl
  | some v =>
      by_cases hv : v = ""
      · subst hv
        decide
      · rw [HttpConfig.contentTypeArguments, if_neg hv, List.flatMap_cons,
          references_of_no_dollar (by decide), List.nil_append, List.flatMap_singleton,
          references_append_of_no_dollar (by decide)]
        exact (List.flatMap_singleton ..).symm

theorem references_toString (n : Int) : references (toString n) = [] := by
  refine references_of_no_dollar fun hdollar => ?_
  have hdigits : ∀ n : Nat, '$' ∉ (toString n).toList := fun n hmem => by
    have := Number.isDigit_of_mem_toString hmem
    cases this
  cases n with
  | ofNat n => exact hdigits n hdollar
  | negSucc n =>
      have htext : toString (Int.negSucc n) = "-" ++ toString (n + 1) := rfl
      rw [htext, String.toList_append] at hdollar
      rcases List.mem_cons.1 hdollar with heq | hmem
      · cases heq
      · exact hdigits (n + 1) hmem

theorem references_limit (c : HttpConfig) : c.limitArguments.flatMap references = [] := by
  rw [HttpConfig.limitArguments]
  split
  · split
    · rfl
    · rw [List.flatMap_cons, List.flatMap_singleton, references_of_no_dollar (by decide),
        references_toString, List.nil_append]
  · rfl

/-- The arguments of a request refer to the variables of its settings, and to those in the names of
its headers. -/
theorem mem_references_curlArguments (c : HttpConfig) :
    name ∈ c.curlArguments.flatMap references ↔
      name ∈ (Config.http c).toDocument.texts.flatMap references ∨
        name ∈ c.headers.keys.flatMap references := by
  have hmethod : references (if c.method = "" then "GET" else c.method) = references c.method := by
    split
    · next h =>
        rw [h]
        decide
    · rfl
  have hheaders : name ∈ (HttpConfig.headerArguments c.headers.entries).flatMap references ↔
      name ∈ c.headers.values.flatMap references ∨ name ∈ c.headers.keys.flatMap references :=
    mem_references_entries mem_references_header c.headers
  have hredirects : (if c.followRedirects then ["-L"] else []).flatMap references = [] := by
    split <;> decide
  have hurl : (if c.url = "" then [] else [c.url]).flatMap references = references c.url := by
    split
    · next h =>
        rw [h]
        decide
    · simp
  rw [HttpConfig.curlArguments_eq, HttpConfig.openingArguments, HttpConfig.closingArguments]
  simp only [List.flatMap_append, List.mem_append, references_contentType, references_limit,
    hredirects, hurl, hheaders,
    references_flagged (show '$' ∉ "-d".toList by decide),
    references_flagged (show '$' ∉ "-o".toList by decide), List.flatMap_cons, List.flatMap_nil,
    hmethod,
    references_of_no_dollar (show '$' ∉ "-X".toList by decide), Config.toDocument, Document.texts,
    textsOfFields, texts_ofTable, texts_ofText?, texts_ofInt?, List.not_mem_nil, false_or, or_false]
  exact Iff.of_eq (by ac_rfl)

/-- The lines of a task and its settings refer to the same variables, but for references in the
names of a table, which the lines hold as well. -/
theorem mem_references_shownTexts (step : Step) :
    name ∈ step.shownTexts.flatMap references ↔
      name ∈ step.config.toDocument.references ∨ name ∈ step.tableNames.flatMap references := by
  rw [Document.references, mem_firsts]
  cases step with
  | exec c =>
      have henvironment : name ∈ (c.environment.entries.flatMap fun e => [e.1, e.2]).flatMap
          references ↔ name ∈ c.environment.values.flatMap references ∨
            name ∈ c.environment.keys.flatMap references :=
        mem_references_entries (fun e => by simp [or_comm]) c.environment
      simp only [Step.shownTexts, Step.config, Step.tableNames, List.flatMap_append,
        List.mem_append, references_presentText, henvironment, Config.toDocument, Document.texts,
        textsOfFields, texts_ofTexts, texts_ofTable, texts_ofText?, List.flatMap_nil,
        List.not_mem_nil, or_false, or_assoc]
  | copy c | processResources c | delete c | zip c | jar c | test c | javaCompile c =>
      simp only [Step.shownTexts, Step.config, Step.tableNames, List.flatMap_append,
        List.mem_append, references_presentText, references_duplicates, Config.toDocument,
        Document.texts, textsOfFields, texts_ofTexts, texts_ofText?, texts_ofInt?, List.flatMap_nil,
        List.not_mem_nil, Option.toList_some, or_false, false_or, or_assoc]
  | httpRequest c =>
      have hcurl : references "curl" = [] := references_of_no_dollar (by decide)
      rw [Step.shownTexts, List.flatMap_cons, hcurl, List.nil_append]
      exact mem_references_curlArguments c
  | custom => simp [Step.shownTexts, Step.config, Step.tableNames, Config.toDocument,
      Document.texts, textsOfFields]

end Settings

section Check

/-- The texts that stand as literals in the lines for what a task does. -/
def Node.writtenTexts (comments : Bool) (n : Node) : List String :=
  (stepLines comments n.step).flatMap literalTexts

/-- The names that are listed for a task when a graph is checked. -/
def Graph.undeclaredIn (g : Graph) (n : Node) : List String :=
  n.step.config.toDocument.undeclared g.vars

theorem mem_undeclaredIn {g : Graph} {n : Node} {name : String} :
    name ∈ g.undeclaredIn n ↔ name ∉ g.vars.map Variable.name ∧
      ∃ s ∈ n.step.config.toDocument.texts, RefersTo s name := by
  have hdeclared : (g.vars.any fun v => v.name == name) = true ↔
      name ∈ g.vars.map Variable.name := by
    simp
  rw [Graph.undeclaredIn, Document.undeclared, List.mem_filter, Document.references, mem_firsts,
    List.mem_flatMap, Bool.not_eq_true', ← Bool.not_eq_true, hdeclared, and_comm]
  simp only [mem_references_iff]

/-- The lines of a task refer to the variables of its settings, and to those in the names of a
table. -/
theorem refersTo_writtenTexts (comments : Bool) (n : Node) (name : String) :
    (∃ s ∈ n.writtenTexts comments, RefersTo s name) ↔
      (∃ s ∈ n.step.config.toDocument.texts, RefersTo s name) ∨
        ∃ key ∈ n.step.tableNames, RefersTo key name := by
  have hlines : name ∈ n.step.shownTexts.flatMap references ↔
      name ∈ n.step.config.toDocument.references ∨ name ∈ n.step.tableNames.flatMap references :=
    mem_references_shownTexts n.step
  rw [Document.references, mem_firsts] at hlines
  simp only [List.mem_flatMap, mem_references_iff] at hlines
  rwa [Node.writtenTexts, literalTexts_stepLines]

/-- Listed for a task are the undeclared variables to which the texts of its settings refer, each
once. These are the undeclared variables to which the lines of the task refer, but for references in
the name of an environment variable or of a header. -/
theorem undeclared_spec (g : Graph) :
    g.exportCheck.undeclared =
        g.nodes.flatMap (fun n => (g.undeclaredIn n).map fun name => ⟨n.name, name⟩) ∧
      ∀ n ∈ g.nodes, (g.undeclaredIn n).Nodup ∧
        (∀ name, name ∈ g.undeclaredIn n ↔ name ∉ g.vars.map Variable.name ∧
          ∃ s ∈ n.step.config.toDocument.texts, RefersTo s name) ∧
        ∀ comments name, name ∉ g.vars.map Variable.name →
          ((∃ s ∈ n.writtenTexts comments, RefersTo s name) ↔
            name ∈ g.undeclaredIn n ∨ ∃ key ∈ n.step.tableNames, RefersTo key name) := by
  refine ⟨rfl, fun n _ => ⟨(nodup_firsts _).filter _, fun name => mem_undeclaredIn,
    fun comments name hname => ?_⟩⟩
  rw [refersTo_writtenTexts, mem_undeclaredIn, and_iff_right hname]

/-- The task whose lines refer to a variable in the value of a header is one with a warning. -/
theorem undeclared_header_value :
    let request : HttpConfig := {
      url := "https://x.io", headers := Table.ofList [("Accept", referenceTo "x")] }
    let n : Node := { id := "a", name := "fetch", step := .httpRequest request }
    let g : Graph := { nodes := [n] }
    "x" ∈ g.undeclaredIn n ∧ ∃ s ∈ n.writtenTexts false, RefersTo s "x" := by
  intro request n g
  obtain ⟨-, hnodes⟩ := undeclared_spec g
  obtain ⟨-, hlisted, hlines⟩ := hnodes n (List.mem_singleton_self n)
  have hmem : "x" ∈ g.undeclaredIn n :=
    (hlisted "x").2 ⟨List.not_mem_nil, referenceTo "x", by decide, by decide, "", "", by decide⟩
  exact ⟨hmem, (hlines false "x" List.not_mem_nil).2 (.inl hmem)⟩

/-- A reference in the name of an environment variable is written, and there is no warning. -/
theorem undeclared_environment_name :
    let settings : ExecConfig := {
      commandLine := ["make"], environment := Table.ofList [(referenceTo "x", "v")] }
    let n : Node := { id := "a", name := "build", step := .exec settings }
    let g : Graph := { nodes := [n] }
    referenceTo "x" ∈ n.writtenTexts false ∧ "x" ∈ references (referenceTo "x") ∧
      "x" ∉ g.vars.map Variable.name ∧ g.exportCheck.undeclared = [] := by
  decide +kernel

end Check

end BuildGraph
