import BuildGraph.Proofs.Script.Comments
import BuildGraph.Proofs.Script.Front

/-!
# Reading a whole script

A script of which the comments are harmless is scanned without faults. What is found in it are the
variables that it declares and one block for each task, or one of its integers stops the reading.
-/

namespace BuildGraph.Script

open BuildGraph.Text BuildGraph.Number

variable {lines : List String} {g : Graph} {registered : List String} {options : ExportOptions}
  {nodes : List Node} {n : Node} {act : Findings → Except IntegerStop Findings}

section Texts

theorem toList_intercalate_newline (first : String) (lines : List String) :
    (String.intercalate "\n" (first :: lines)).toList ++ ['\n'] = textOf (first :: lines) := by
  induction lines generalizing first with
  | nil => simp [textOf]
  | cons second lines ih =>
      rw [String.intercalate_cons_cons, String.toList_append, String.toList_append,
        List.append_assoc, ih second]
      simp [textOf]

/-- Trimmed at its end and with one line break, a text of lines is one of lines with breaks. -/
theorem toList_trimmed_lines {init : List String} {last : String} {c : Char} {cs : List Char}
    (hlast : last.toList = cs ++ [c]) (hc : c ≠ '\n') :
    (trimRightOf ['\n'] (String.intercalate "\n" (init ++ [last, ""])) ++ "\n").toList =
      textOf (init ++ [last]) := by
  have hall : (String.intercalate "\n" (init ++ [last, ""])).toList ++ ['\n'] =
      textOf (init ++ [last]) ++ ['\n'] := by
    cases init with
    | nil => simp [textOf]
    | cons first init =>
        simpa [textOf] using toList_intercalate_newline first (init ++ [last, ""])
  -- one line break too many stands at the end, behind a character that stays
  have htext : (String.intercalate "\n" (init ++ [last, ""])).toList =
      (textOf init ++ cs) ++ [c] ++ ['\n'] := by
    have heq := List.append_cancel_right hall
    rw [heq]
    simp [textOf, hlast]
  have htrim : dropEnd (fun x => ['\n'].contains x) ((textOf init ++ cs) ++ [c] ++ ['\n']) =
      (textOf init ++ cs) ++ [c] := by
    rw [drop_end_concat_of_drop (by simp), drop_end_concat (by simpa using hc)]
  rw [String.toList_append, trimRightOf, String.toList_ofList, htext, htrim]
  simp [textOf, hlast]

end Texts

section Signs

theorem lineSigns_true (signs : List (List Sign)) :
    lineSigns true signs = (signs.filter (!·.isEmpty)).flatMap (· ++ [.newline]) := by
  induction signs with
  | nil => rfl
  | cons first signs ih =>
      rw [lineSigns, ih]
      cases first with
      | nil => simp
      | cons s first => simp

/-- A script may start with a line break, and from then on only lines that are not blank count. -/
theorem lineSigns_false (signs : List (List Sign)) :
    ∃ front, (front = [] ∨ front = [.newline]) ∧
      lineSigns false signs = front ++ (signs.filter (!·.isEmpty)).flatMap (· ++ [.newline]) := by
  cases signs with
  | nil => exact ⟨[], .inl rfl, rfl⟩
  | cons first signs =>
      rw [lineSigns, lineSigns_true]
      cases first with
      | nil => exact ⟨[.newline], .inr rfl, by simp⟩
      | cons s first => exact ⟨[], .inl rfl, by simp⟩

/-- Lines that can be read at the top of a script are scanned without faults and read, however they
end. -/
theorem Section.read (h : Section lines act) (e : LineEnd) {text : String}
    (htext : text.toList = textOf lines) (f : Findings) :
    (scan (e.respell text)).faults = [] ∧
      (readTokens (e.respell text) 0 none f (scan (e.respell text)).tokens).map Findings.unlined =
        act f.unlined := by
  obtain ⟨rows, signs, hrows, hscans, hfinds⟩ := h
  obtain ⟨tokens, htokens, hscan⟩ := scan_lines hscans e 0 1 false
  obtain ⟨front, hfront, hsigns⟩ := lineSigns_false signs
  have hwhole : Finds (front ++ (signs.filter (!·.isEmpty)).flatMap (· ++ [.newline])) act := by
    -- a script may begin with a line break, and this adds nothing
    rcases hfront with rfl | rfl
    · exact hfinds
    · exact finds_newline.append hfinds
  obtain ⟨found, comment, -, hfound, hread⟩ :=
    hwhole.read (e.respell text) tokens [] none f (htokens.signs.trans hsigns) rfl (by simp)
  have htokens_eq : scan (e.respell text) = ⟨tokens, []⟩ := by
    rw [Script.scan, LineEnd.respell, String.toList_ofList, htext, ← hrows, hscan]
  rw [htokens_eq]
  refine ⟨rfl, ?_⟩
  rw [← hfound, ← List.append_nil tokens, hread]
  exact congrArg _ (bind_pure found)

end Signs

section Tasks

/-- Whether a stub stands for the block of a task. -/
def isStub (options : ExportOptions) (n : Node) : Bool :=
  !n.enabled && options.disabledTasks = .comment

/-- What a task of a script is read to. -/
def readTask (g : Graph) (registered : List String) (options : ExportOptions) (n : Node) :
    Except IntegerStop Block :=
  if isStub options n then .ok (stubBlock n 0) else readTaskBlock g registered options n 0

theorem taskBlock_eq (g : Graph) (registered : List String) (options : ExportOptions) (n : Node) :
    taskBlock g registered options n = descriptionLines options n ++
      if isStub options n then
        ["// " ++ disabledMarker, "// " ++ registrationHeader n ++ " \x7b ... \x7d", ""]
      else (registrationHeader n ++ " \x7b") ::
        ((bodyLines g registered options n).map (indent ++ ·) ++ ["\x7d", ""]) :=
  rfl

/-- The lines of a task below its description add its block. -/
theorem paragraph_taskBlock (hdescription : options.includeDescriptions = true →
      ∀ d ∈ n.description, ¬ "/*".toList <:+: d.toList)
    (hrelations : ∀ r ∈ writtenRelations g registered n, Referable r.2) :
    Paragraph (taskBlock g registered options n) fun f =>
      (readTask g registered options n).map fun b => { f with blocks := f.blocks ++ [b] } := by
  rw [taskBlock_eq]
  refine (section_descriptionLines hdescription).paragraph ?_
  rw [readTask]
  split
  · exact ⟨["// " ++ disabledMarker], "// " ++ registrationHeader n ++ " \x7b ... \x7d", '\x7d',
      ("// " ++ registrationHeader n ++ " \x7b ... ").toList, rfl, by simp, by decide,
      section_stub n⟩
  · exact ⟨(registrationHeader n ++ " \x7b") ::
      (bodyLines g registered options n).map (indent ++ ·), "\x7d", '\x7d', [], by simp, rfl,
      by decide, section_task hrelations⟩

/-- Every task of a script adds its block. -/
theorem paragraphs_tasks (hdescriptions : options.includeDescriptions = true →
      ∀ n ∈ nodes, ∀ d ∈ n.description, ¬ "/*".toList <:+: d.toList)
    (hrelations : ∀ n ∈ nodes, ∀ r ∈ writtenRelations g registered n, Referable r.2) :
    Paragraphs (nodes.flatMap (taskBlock g registered options)) fun f =>
      (nodes.mapM (readTask g registered options)).map fun blocks =>
        { f with blocks := f.blocks ++ blocks } := by
  induction nodes with
  | nil => exact .inl ⟨rfl, funext fun f => by simp [Except.map, pure, Except.pure]⟩
  | cons n nodes ih =>
      have hfirst := paragraph_taskBlock (fun h => hdescriptions h n List.mem_cons_self)
        (hrelations n List.mem_cons_self)
      have hrest := ih (fun h m hm => hdescriptions h m (List.mem_cons_of_mem _ hm))
        fun m hm => hrelations m (List.mem_cons_of_mem _ hm)
      have hall := hfirst.append hrest
      rw [List.flatMap_cons]
      refine .inr ?_
      convert hall using 2 with f
      rw [List.mapM_cons]
      cases readTask g registered options n with
      | error stop => rfl
      | ok b =>
          cases nodes.mapM (readTask g registered options) <;>
            simp [Except.map, bind, Except.bind, pure, Except.pure]

end Tasks

section Scripts

/-- The variables that a script declares. -/
def declaredVariables (options : ExportOptions) (vars : List Variable) : List Variable :=
  if options.variableFormat = .inline then [] else vars

theorem paragraphs_variableLines (options : ExportOptions) {vars : List Variable}
    (hnames : ∀ v ∈ vars, isVariableName v.name = true) :
    Paragraphs (variableLines options vars) fun f =>
      .ok ((keptVariables (declaredVariables options vars)).foldl
        (fun f v => withVariable v f) f) := by
  rw [variableLines]
  split
  · next h =>
      have hnone : declaredVariables options vars = [] := by
        rw [declaredVariables]
        split
        · rfl
        · next hformat => simpa [hformat] using h
      rw [hnone]
      exact .nil
  · next h =>
      have hall : declaredVariables options vars = vars := by
        rw [declaredVariables, if_neg]
        intro hformat
        simp [hformat] at h
      have hne : vars ≠ [] := by
        rintro rfl
        simp at h
      obtain ⟨init, v, rfl⟩ := (List.eq_nil_or_concat' vars).resolve_left hne
      have hsection := (section_variableRemark options.includeComments).after_nothing
        (section_variables hnames)
      rw [hall]
      refine .inr ⟨flagLine
        "// Project properties (can be overridden via gradle.properties or -P flags)"
        options.includeComments ++ init.map variableLine, variableLine v, '"',
        ("val " ++ v.name ++ ": String = project.findProperty(" ++ quote v.name ++
          ")?.toString() ?: ").toList ++ '"' :: escapeChars v.defaultValue.toList, by simp, ?_,
        by decide, by simpa using hsection⟩
      simp [variableLine, quote, quoteChars]

theorem paragraph_pluginLines (options : ExportOptions) (nodes : List Node) :
    Paragraph (pluginLines options nodes) .ok := by
  have hplugins := section_plugins (nodes.any fun n => n.kind.needsJavaPlugin)
  have hsection := (section_pluginRemark options.includeComments).after_nothing hplugins
  rw [pluginLines]
  exact ⟨_, "\x7d", '\x7d', [], rfl, rfl, by decide, by simpa using hsection⟩

theorem paragraphs_sectionLines (options : ExportOptions) :
    Paragraphs (sectionLines options) .ok := by
  rw [sectionLines]
  split
  · refine .inr ⟨[banner, "// Task Definitions"], banner, '=',
      ("// " ++ String.ofList (List.replicate 76 '=')).toList, rfl, ?_, by decide,
      section_sectionTitle⟩
    simp [banner]
  · exact .nil

/-- The ids of the tasks that the script of a graph registers. -/
def registeredOf (g : Graph) (options : ExportOptions) : List String :=
  registeredIds options (emittedNodes g options)

/-- The texts of users in the comments of a script open no further comment, and the name of the
project ends none. A description is written so that it ends none. -/
structure Harmless (g : Graph) (options : ExportOptions) : Prop where
  descriptions : options.includeDescriptions = true → ∀ n ∈ emittedNodes g options,
    ∀ d ∈ n.description, ¬ "/*".toList <:+: d.toList
  project : options.includeComments = true → ∀ name ∈ options.projectName,
    ¬ "/*".toList <:+: name.toList ∧ ¬ "*/".toList <:+: name.toList

/-- What is found in the script of a graph, where the lines of blocks do not count. -/
def foundIn (g : Graph) (options : ExportOptions) : Except IntegerStop Findings :=
  let f := (keptVariables (declaredVariables options g.userVariables)).foldl
    (fun f v => withVariable v f) { ids := {} }
  ((emittedNodes g options).mapM (readTask g (registeredOf g options) options)).map fun blocks =>
    { f with blocks := f.blocks ++ blocks }

/-- A script of which the comments are harmless is scanned without faults, and its variables and
tasks are found in it, however its lines end. -/
theorem read_script (e : LineEnd) (now : Timestamp) (hharmless : Harmless g options)
    (hnames : ∀ v ∈ g.userVariables, isVariableName v.name = true)
    (hrelations : ∀ n ∈ emittedNodes g options,
      ∀ r ∈ writtenRelations g (registeredOf g options) n, Referable r.2) :
    let text := e.respell (g.script options now)
    (scan text).faults = [] ∧
      (readTokens text 0 none { ids := {} } (scan text).tokens).map Findings.unlined =
        foundIn g options := by
  have himport : Paragraph ["import java.time.Duration", ""] .ok :=
    ⟨[], "import java.time.Duration", 'n', "import java.time.Duratio".toList, rfl, by simp,
      by decide, section_import⟩
  have hheader := paragraphs_headerLines options now fun hcomments name hname =>
    isChain_quiet_iff.2 (hharmless.project hcomments name hname)
  have hfront := (hheader.paragraph himport).append
    (.inr (paragraph_pluginLines options (emittedNodes g options)))
  have hscript := ((hfront.append (paragraphs_variableLines options hnames)).append
    (paragraphs_sectionLines options)).append
      (paragraphs_tasks hharmless.descriptions hrelations)
  obtain ⟨init, last, c, cs, hlines, hlast, hc, hsection⟩ := hscript
  have hall : scriptLines g options now = init ++ [last, ""] := hlines
  have htext : (g.script options now).toList = textOf (init ++ [last]) := by
    rw [Graph.script, hall, toList_trimmed_lines hlast hc]
  exact hsection.read e htext { ids := {} }

end Scripts

end BuildGraph.Script
