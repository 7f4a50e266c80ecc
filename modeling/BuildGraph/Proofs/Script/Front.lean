import BuildGraph.Proofs.Script.Sections

/-!
# The front of a script

Above the blocks of its tasks a script has an import, the plugins and the declarations of variables.
Reading the front adds the variables and nothing else. The name of a variable may end in a line
break, and then its declaration is torn and adds nothing.
-/

namespace BuildGraph.Script

open Recognizer

variable {signs : List Sign} {options : ExportOptions}

section Passed

/-- A statement that is no registration and no declaration adds nothing. -/
theorem finds_passed (h : IsPhrase signs) (hread : ∀ (tokens : List Token) (f : Findings),
      tokens.map Token.sign = signs →
      registration ⟨tokens, 0⟩ = .absent ∧ readVariable tokens f = f) :
    Finds (signs ++ [.newline]) .ok :=
  finds_statement h fun text tokens line f htokens => by
    obtain ⟨hregistration, hvariable⟩ := hread tokens f htokens
    rw [readTopStatement, hregistration]
    simp only [hvariable]
    rfl

theorem section_import : Section ["import java.time.Duration"] .ok := by
  have himport : Written "import" [.ident "import"] := written_word (by decide)
  have hjava : Expression "java" [.ident "java"] := expression_word (by decide)
  have htime : Expression "time" [.ident "time"] := expression_word (by decide)
  have hduration : Expression "Duration" [.ident "Duration"] := expression_word (by decide)
  have hline := himport.append_blank ((hjava.append "." rfl htime).append "." rfl hduration).written
  have hstatement : IsStatement (.ident "import" ::
      [.ident "java", .op ".", .ident "time", .op ".", .ident "Duration"]) := by
    refine ⟨?_, ⟨_, _, rfl⟩, by simp [Sign.carriesOn, Sign.ident]⟩
    exact .plain rfl (.plain rfl (.plain rfl (.plain rfl (.plain rfl (.plain rfl .nil)))))
  exact .of_lines (.cons (hline.of_eq (by simp) rfl).scans .nil)
    (finds_passed hstatement.phrase fun _ f htokens =>
      registration_other rfl (by decide) (by decide) htokens f)

/-- The block of plugins adds nothing. -/
theorem section_plugins (java : Bool) :
    Section (["plugins \x7b", indent ++ "base"] ++ flagLine (indent ++ "java") java ++ ["\x7d"])
      .ok := by
  have hopen : Written "\x7b" [.op "\x7b"] := written_mark _ (by simp [operators_eq]) (by simp)
  have hclose : Written "\x7d" [.op "\x7d"] := written_mark _ (by simp [operators_eq]) (by simp)
  have hplugins : Written "plugins" [.ident "plugins"] := written_word (by decide)
  have hbase : Written "base" [.ident "base"] := written_word (by decide)
  have hjava : Written "java" [.ident "java"] := written_word (by decide)
  have hhead : Written "plugins \x7b" [.ident "plugins", .op "\x7b"] :=
    (hplugins.append_blank hopen).of_eq (by simp) rfl
  have hpassed : ∀ {inner : List Sign}, Balanced inner →
      Finds ((.ident "plugins" :: .op "\x7b" :: (inner ++ [.op "\x7d"]) : List Sign) ++
        [.newline]) .ok := by
    intro inner hinner
    have hstatement : IsStatement (.ident "plugins" :: .op "\x7b" :: (inner ++ [.op "\x7d"])) := by
      refine ⟨.plain rfl (.group rfl hinner .nil), ⟨_, _, rfl⟩, ?_⟩
      intro s hs
      rw [← List.cons_append, ← List.cons_append, List.getLast?_concat] at hs
      obtain rfl := Option.some.inj hs
      decide
    exact finds_passed hstatement.phrase fun _ f htokens =>
      registration_other rfl (by decide) (by decide) htokens f
  cases java with
  | false =>
      exact .of_lines (.cons hhead.scans (.cons hbase.scans.indented (.cons hclose.scans .nil)))
        (hpassed (.plain rfl (.plain rfl (.plain rfl .nil))))
  | true =>
      exact .of_lines (.cons hhead.scans (.cons hbase.scans.indented
          (.cons hjava.scans.indented (.cons hclose.scans .nil))))
        (hpassed (.plain rfl (.plain rfl (.plain rfl (.plain rfl (.plain rfl .nil))))))

end Passed

section Variables

/-- What is found when a variable is declared. -/
def withVariable (v : Variable) (f : Findings) : Findings :=
  let issued := f.ids.unique ("var_" ++ v.name)
  { f with
    ids := issued.2
    vars := f.vars ++ [{ id := issued.1, name := v.name, defaultValue := v.defaultValue }] }

theorem written_declaration {v : Variable} (hname : isIdentifier v.name.toList = true) :
    Written (variableLine v) (declarationSigns v.name v.defaultValue) := by
  have hval : Written "val" [.ident "val"] := written_word (by decide)
  have hstring : Written "String" [.ident "String"] := written_word (by decide)
  have hequals : Written "=" [.op "="] := written_mark _ (by simp [operators_eq]) (by simp)
  have hcolon : Written (v.name ++ ":") [.ident v.name, .op ":"] := by
    have hmark : Spelled ":" [.operator ":"] := spelled_operator (by simp [operators_eq]) (by simp)
    exact ((spelled_word hname).append hmark (by simp [Piece.joins])).written
  exact ((((hval.append_blank hcolon).append_blank hstring).append_blank hequals).append_blank
    (written_lookup v.name v.defaultValue)).of_eq (by simp [variableLine]) rfl

/-- The declaration of a variable with an identifier for a name adds the variable. -/
theorem section_declaration {v : Variable} (hname : isIdentifier v.name.toList = true) :
    Section [variableLine v] fun f => .ok (withVariable v f) := by
  refine section_statement (written_declaration hname) (isStatement_declaration _ _).phrase
    fun text tokens line f htokens => ?_
  have hread := reads_variableDeclaration v.name v.defaultValue tokens [] 0 htokens
  rw [List.append_nil] at hread
  rw [readTopStatement, registration_declaration htokens]
  simp only
  rw [readVariable, hread]
  rfl

/-- The name of a variable is an identifier, or one with a line break behind it. -/
theorem isIdentifier_or_of_isVariableName {name : String} (h : isVariableName name = true) :
    isIdentifier name.toList = true ∨
      ∃ front, isIdentifier front.toList = true ∧ name = front ++ "\n" := by
  rw [isVariableName] at h
  cases hname : name.toList with
  | nil =>
      rw [hname] at h
      cases h
  | cons c rest =>
      rw [hname, isIdentifierLine, Bool.and_eq_true, Bool.or_eq_true, Bool.and_eq_true,
        beq_iff_eq] at h
      rcases h.2 with hall | ⟨hlast, hall⟩
      · exact .inl (by rw [isIdentifier, h.1, hall]; rfl)
      · refine .inr ⟨String.ofList (c :: rest.dropLast), ?_, ?_⟩
        · rw [String.toList_ofList, isIdentifier, h.1, hall]
          rfl
        · rw [← String.toList_inj, hname]
          simp [List.dropLast_append_getLast? _ hlast]

/-- What is left of the declaration of a variable behind its name, where texts stand for
literals. -/
def declaredText (name default : String) : String :=
  ": String = " ++ ("project.findProperty(" ++ name ++ ")?.toString() ?: " ++ default)

theorem written_declaredText (name default : String) :
    Written (declaredText (quote name) (quote default))
      (.op ":" :: .ident "String" :: .op "=" :: lookupSigns name default) := by
  have hstring : Written "String" [.ident "String"] := written_word (by decide)
  have hequals : Written "=" [.op "="] := written_mark _ (by simp [operators_eq]) (by simp)
  have hcolon : Written ":" [.op ":"] := written_mark _ (by simp [operators_eq]) (by simp)
  have htext : ∀ name default : String, (declaredText name default).toList =
      (":" ++ " " ++ "String" ++ " " ++ "=" ++ " " ++
        ("project.findProperty(" ++ name ++ ")?.toString() ?: " ++ default)).toList := by
    intro name default
    simp only [declaredText, String.toList_append, List.append_assoc]
    rfl
  exact (((hcolon.append_blank hstring).append_blank hequals).append_blank
    (written_lookup name default)).of_eq (htext _ _) rfl

/-- A declaration that is torn behind the name adds nothing. -/
theorem section_tornDeclaration {v : Variable} {front : String}
    (hfront : isIdentifier front.toList = true) (hname : v.name = front ++ "\n") :
    Section [variableLine v] .ok := by
  have hval : Written "val" [.ident "val"] := written_word (by decide)
  have hfirst : Written ("val " ++ front) [.ident "val", .ident front] :=
    (hval.append_blank (written_word hfront)).of_eq (by simp) rfl
  have hline : ∀ literal default : String,
      ("val " ++ v.name ++ declaredText literal default).toList =
        ("val " ++ front).toList ++ '\n' :: (declaredText literal default).toList := by
    simp [hname]
  have hbare : Finds ([.ident "val", .ident front] ++ [.newline]) .ok := by
    have hstatement : IsStatement [.ident "val", .ident front] :=
      ⟨.plain rfl (.plain rfl .nil), ⟨_, _, rfl⟩, by simp [Sign.carriesOn, Sign.ident]⟩
    exact finds_passed hstatement.phrase fun _ f htokens => registration_bare htokens f
  have hphrase : IsPhrase (.op ":" :: .ident "String" :: .op "=" ::
      lookupSigns v.name v.defaultValue) :=
    ⟨inline_declared _ _, ⟨_, _, rfl, rfl, rfl⟩, declared_ends _ _⟩
  have hrest := finds_passed hphrase fun _ f htokens =>
    registration_other rfl (by decide) (by decide) htokens f
  refine ⟨[("val " ++ front).toList, (declaredText (quote v.name) (quote v.defaultValue)).toList],
    [_, _], ?_, .cons hfirst.scans (.cons (written_declaredText _ _).scans .nil),
    hbare.append hrest⟩
  have hwhole : variableLine v =
      "val " ++ v.name ++ declaredText (quote v.name) (quote v.defaultValue) := by
    rw [← String.toList_inj, variableLine, declaredText]
    simp
  rw [hwhole, textOf, List.flatMap_singleton, hline]
  simp

/-- The variables of which the declarations are not torn. -/
def keptVariables (vars : List Variable) : List Variable :=
  vars.filter fun v => isIdentifier v.name.toList

/-- The declarations add the variables one after another, but for those that are torn. -/
theorem section_variables {vars : List Variable}
    (hnames : ∀ v ∈ vars, isVariableName v.name = true) :
    Section (vars.map variableLine) fun f =>
      .ok ((keptVariables vars).foldl (fun f v => withVariable v f) f) := by
  induction vars with
  | nil => exact section_nil
  | cons v vars ih =>
      obtain ⟨hname, hnames⟩ := List.forall_mem_cons.1 hnames
      have hfirst : Section [variableLine v] fun f =>
          .ok ((keptVariables [v]).foldl (fun f v => withVariable v f) f) := by
        by_cases hkept : isIdentifier v.name.toList = true
        · simpa [keptVariables, hkept] using section_declaration hkept
        · obtain ⟨front, hfront, htorn⟩ :=
            (isIdentifier_or_of_isVariableName hname).resolve_left hkept
          simpa [keptVariables, hkept] using section_tornDeclaration hfront htorn
      have hsplit : keptVariables (v :: vars) = keptVariables [v] ++ keptVariables vars :=
        List.filter_append [v] vars
      have hboth := hfirst.append (ih hnames)
      simp only [hsplit, List.foldl_append]
      exact hboth

end Variables

section Remarks

theorem section_pluginRemark (comments : Bool) :
    Section (flagLine "// Apply necessary plugins" comments) .ok := by
  have hline : "// Apply necessary plugins" = "//" ++ " Apply necessary plugins" := by simp
  exact section_flagLine comments (section_remark hline (by simp) (by decide +kernel))

theorem section_variableRemark (comments : Bool) :
    Section (flagLine "// Project properties (can be overridden via gradle.properties or -P flags)"
      comments) .ok := by
  have hline : "// Project properties (can be overridden via gradle.properties or -P flags)" =
      "//" ++ " Project properties (can be overridden via gradle.properties or -P flags)" := by simp
  exact section_flagLine comments (section_remark hline (by simp) (by decide +kernel))

theorem section_banner : Section [banner] .ok := by
  have hline : banner = "//" ++ (" " ++ String.ofList (List.replicate 77 '=')) := by
    rw [← String.toList_inj]
    simp [banner]
  exact section_remark hline (by simp) (by decide +kernel)

theorem section_sectionTitle : Section [banner, "// Task Definitions", banner] .ok := by
  have hline : "// Task Definitions" = "//" ++ " Task Definitions" := by simp
  have htitle : Section ["// Task Definitions"] .ok :=
    section_remark hline (by simp) (by decide +kernel)
  exact section_banner.after_nothing (htitle.after_nothing section_banner)

end Remarks

end BuildGraph.Script
