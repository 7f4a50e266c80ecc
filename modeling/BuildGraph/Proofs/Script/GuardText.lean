import BuildGraph.Proofs.Script.Guards

/-!
# The text of guards

The text of a guard's statement is written to the signs that the guard is read back from.
-/

namespace BuildGraph.Script

variable {vars : List Variable} {format : VariableFormat}

theorem written_nil : Written "" [] := ⟨[], ⟨rfl, by simp, .nil⟩, rfl⟩

/-- A call without arguments is an expression. -/
theorem expression_emptyCall (name : String) (hname : isIdentifier name.toList = true) :
    Expression (name ++ "()") (call name []) :=
  (expression_call hname written_nil).of_eq (by simp) rfl

/-- A look-up of a name among the properties of the project, as a text that may be absent. -/
theorem expression_property (name : String) :
    Expression ("project.findProperty(" ++ quote name ++ ")?.toString()")
      (.ident "project" :: .op "." :: (call "findProperty" [.string name] ++ .op "?." ::
        call "toString" [])) := by
  have hproject : Expression "project" [.ident "project"] := expression_word (by decide)
  have hfind : Expression ("findProperty" ++ "(" ++ quote name ++ ")")
      (call "findProperty" [.string name]) := expression_call (by decide) (written_quote name)
  have htext : Expression ("toString" ++ "()") (call "toString" []) :=
    expression_emptyCall _ (by decide)
  exact ((hproject.append "." rfl hfind).append "?." rfl htext).of_eq (by simp) rfl

/-- The default behind a look-up. -/
theorem written_lookup (name default : String) :
    Written ("project.findProperty(" ++ quote name ++ ")?.toString() ?: " ++ quote default)
      (lookupSigns name default) := by
  have helse : Written "?:" [.op "?:"] :=
    (spelled_operator (by simp [operators_eq]) (by simp)).written
  exact (((expression_property name).written.append_blank helse).append_blank
    (written_quote default)).of_eq (by simp) rfl

/-- The text of an operand is an expression. -/
theorem expression_operand (vars : List Variable) (format : VariableFormat) (o : Operand) :
    Expression (operandText vars format o) (operandSigns vars format o) := by
  have hempty : Expression ("orEmpty" ++ "()") (call "orEmpty" []) :=
    expression_emptyCall _ (by decide)
  obtain ⟨source, value⟩ := o
  cases source with
  | «variable» =>
      cases format with
      | inline => exact expression_quote _
      | properties =>
          exact (expression_parens (written_lookup value (writtenDefault vars value))).of_eq
            (by simp [operandText, writtenDefault]) rfl
  | environment =>
      have hsystem : Expression "System" [.ident "System"] := expression_word (by decide)
      have hget : Expression ("getenv" ++ "(" ++ quote value ++ ")")
          (call "getenv" [.string value]) := expression_call (by decide) (written_quote value)
      exact ((hsystem.append "." rfl hget).append "." rfl hempty).of_eq (by simp [operandText]) rfl
  | property =>
      exact ((expression_property value).append "." rfl hempty).of_eq (by simp [operandText]) rfl
  | literal => exact expression_quote _

section Comparisons

variable {left right : String} {leftSigns rightSigns : List Sign}

theorem written_mark (mark : String) (h : mark.toList ∈ operators)
    (hslash : mark.toList.head? ≠ some '/') : Written mark [.op mark] :=
  (spelled_operator h hslash).written

/-- Two expressions with an operator between them are written. -/
theorem written_binary (mark : String) (h : mark.toList ∈ operators)
    (hslash : mark.toList.head? ≠ some '/') (hleft : Written left leftSigns)
    (hright : Written right rightSigns) :
    Written (left ++ " " ++ mark ++ " " ++ right) (leftSigns ++ .op mark :: rightSigns) :=
  ((hleft.append_blank (written_mark mark h hslash)).append_blank hright).of_eq rfl (by simp)

/-- A call of a method of an expression is one. -/
theorem Expression.method (h : Expression left leftSigns) (name : String)
    (hname : isIdentifier name.toList = true) (hinner : Written right rightSigns) :
    Expression (left ++ "." ++ (name ++ "(" ++ right ++ ")"))
      (methodSigns leftSigns name rightSigns) :=
  h.append "." rfl (expression_call hname hinner)

/-- A test for the members of a list is written. -/
theorem Expression.member (h : Expression left leftSigns) (values : List String) :
    Written (left ++ ".lowercase() in listOf(" ++ quoteAll values ++ ")")
      (memberSigns leftSigns values) := by
  have hlower := h.append "." rfl (expression_emptyCall "lowercase" (by decide))
  have hin : Written "in" [.ident "in"] := written_word (by decide)
  have hlist : Written ("listOf" ++ "(" ++ quoteAll values ++ ")")
      (call "listOf" (literals values)) := (written_quoteAll values).call _ (by decide)
  exact ((hlower.written.append_blank hin).append_blank hlist).of_eq (by simp)
    (by simp [memberSigns])

/-- An expression that is read as a number is one. -/
theorem Expression.number (h : Expression left leftSigns) :
    Expression (numberText left) (numberSigns leftSigns) := by
  have hconvert := h.append "." rfl (expression_emptyCall "toDoubleOrNull" (by decide))
  have hnan : Expression ("Double" ++ "." ++ "NaN")
      ([.ident "Double"] ++ .op "." :: [.ident "NaN"]) :=
    (expression_word (by decide)).append "." rfl (expression_word (by decide))
  have hwhole :=
    written_binary "?:" (by simp [operators_eq]) (by simp) hconvert.written hnan.written
  exact (expression_parens hwhole).of_eq (by simp [numberText])
    (by simp [numberSigns, conversionSigns, parens])

/-- A closing brace may stand before a point and an expression. -/
theorem Expression.behind_brace (h : Expression left leftSigns) :
    Written ("\x7d" ++ "." ++ left) (.op "\x7d" :: .op "." :: leftSigns) := by
  obtain ⟨pieces, hspelled, rfl, ⟨first, hfirst, hopens⟩, -⟩ := h
  have hbrace : Spelled ("\x7d" ++ ".") [.operator "\x7d", .operator "."] :=
    (spelled_operator (by simp [operators_eq]) (by simp)).append (spelled_leading rfl)
      (by simp [Piece.isFinal])
  refine ⟨_, hbrace.append hspelled ?_, by simp [Piece.sign?]⟩
  intro p hp q hq
  obtain rfl := Option.some.inj hp
  obtain rfl := Option.some.inj (hfirst.symm.trans hq)
  exact Piece.joins_of_opens rfl hopens

/-- A search for a pattern is written. -/
theorem written_search (hleft : Expression left leftSigns) (hright : Expression right rightSigns) :
    Written ("runCatching \x7b Regex(" ++ right ++ ").containsMatchIn(" ++ left ++
        ") \x7d.getOrDefault(false)")
      (.ident "runCatching" :: .op "\x7b" :: (searchSigns rightSigns leftSigns ++ .op "\x7d" ::
        .op "." :: call "getOrDefault" [.ident "false"])) := by
  have hcatching : Written "runCatching" [.ident "runCatching"] := written_word (by decide)
  have hregex : Expression ("Regex" ++ "(" ++ right ++ ")") (call "Regex" rightSigns) :=
    expression_call (by decide) hright.written
  have hsearch := hregex.method "containsMatchIn" (by decide) hleft.written
  have hfalse : Written "false" [.ident "false"] := written_word (by decide)
  have hdefault : Expression ("getOrDefault" ++ "(" ++ "false" ++ ")")
      (call "getOrDefault" [.ident "false"]) := expression_call (by decide) hfalse
  have hopen : Written "\x7b" [.op "\x7b"] := written_mark _ (by simp [operators_eq]) (by simp)
  have hclose : Written ("\x7d" ++ "." ++ ("getOrDefault" ++ "(" ++ "false" ++ ")"))
      (.op "\x7d" :: .op "." :: call "getOrDefault" [.ident "false"]) :=
    hdefault.behind_brace
  exact (((hcatching.append_blank hopen).append_blank hsearch.written).append_blank hclose).of_eq
    (by simp) (by simp [searchSigns, methodSigns])

/-- The text of a comparison is written. -/
theorem written_comparison (operator : Operator) (hleft : Expression left leftSigns)
    (hright : Expression right rightSigns) :
    Written (comparisonText operator left right)
      (comparisonSigns operator leftSigns rightSigns) := by
  have hbinary := fun mark h hslash => written_binary mark h hslash hleft.written hright.written
  have hnumbers := fun mark h hslash =>
    written_binary mark h hslash hleft.number.written hright.number.written
  have hcall := fun name hname => hleft.method name hname hright.written
  have hquestion := fun name hname => hleft.method name hname written_nil
  cases operator with
  | equals =>
      change Written (left ++ " == " ++ right) _
      exact (hbinary "==" (by simp [operators_eq]) (by simp)).of_eq (by simp) rfl
  | notEquals =>
      change Written (left ++ " != " ++ right) _
      exact (hbinary "!=" (by simp [operators_eq]) (by simp)).of_eq (by simp) rfl
  | contains =>
      change Written (left ++ ".contains(" ++ right ++ ")") _
      exact (hcall "contains" (by decide)).written.of_eq (by simp) rfl
  | notContains =>
      change Written ("!" ++ left ++ ".contains(" ++ right ++ ")") _
      exact (hcall "contains" (by decide)).negated.of_eq (by simp) rfl
  | startsWith =>
      change Written (left ++ ".startsWith(" ++ right ++ ")") _
      exact (hcall "startsWith" (by decide)).written.of_eq (by simp) rfl
  | endsWith =>
      change Written (left ++ ".endsWith(" ++ right ++ ")") _
      exact (hcall "endsWith" (by decide)).written.of_eq (by simp) rfl
  | «matches» => exact written_search hleft hright
  | greaterThan =>
      change Written (numberText left ++ " > " ++ numberText right) _
      exact (hnumbers ">" (by simp [operators_eq]) (by simp)).of_eq (by simp) rfl
  | lessThan =>
      change Written (numberText left ++ " < " ++ numberText right) _
      exact (hnumbers "<" (by simp [operators_eq]) (by simp)).of_eq (by simp) rfl
  | greaterOrEqual =>
      change Written (numberText left ++ " >= " ++ numberText right) _
      exact (hnumbers ">=" (by simp [operators_eq]) (by simp)).of_eq (by simp) rfl
  | lessOrEqual =>
      change Written (numberText left ++ " <= " ++ numberText right) _
      exact (hnumbers "<=" (by simp [operators_eq]) (by simp)).of_eq (by simp) rfl
  | isEmpty =>
      change Written (left ++ ".isBlank()") _
      exact (hquestion "isBlank" (by decide)).written.of_eq (by simp) rfl
  | isNotEmpty =>
      change Written (left ++ ".isNotBlank()") _
      exact (hquestion "isNotBlank" (by decide)).written.of_eq (by simp) rfl
  | isTrue =>
      change Written (left ++ ".lowercase() in listOf(\"true\", \"1\")") _
      have hvalues : quoteAll ["true", "1"] = "\"true\", \"1\"" := by decide
      exact (hleft.member ["true", "1"]).of_eq (by simp [hvalues]) rfl
  | isFalse =>
      change Written (left ++ ".lowercase() in listOf(\"false\", \"0\", \"\")") _
      have hvalues : quoteAll ["false", "0", ""] = "\"false\", \"0\", \"\"" := by decide
      exact (hleft.member ["false", "0", ""]).of_eq (by simp [hvalues]) rfl

end Comparisons

section Guards

theorem written_condition (vars : List Variable) (format : VariableFormat) (c : Condition) :
    Written (conditionText vars format c) (conditionSigns vars format c) :=
  written_comparison c.operator (expression_operand vars format c.left)
    (expression_operand vars format c.right)

/-- Conditions that are joined are written between parentheses. -/
theorem written_intercalate (vars : List Variable) (format : VariableFormat) (logic : Logic)
    (c : Condition) (cs : List Condition) :
    Written (String.intercalate (match logic with | .all => " && " | .any => " || ")
        (((c :: cs).map (conditionText vars format)).map fun part => "(" ++ part ++ ")"))
      (List.intercalate [.op (joint logic)]
        (((c :: cs).map (conditionSigns vars format)).map parens)) := by
  induction cs generalizing c with
  | nil =>
      have hone := (expression_parens (written_condition vars format c)).written
      simpa using hone
  | cons d cs ih =>
      have hfirst := (expression_parens (written_condition vars format c)).written
      rw [List.map_cons, List.map_cons, List.map_cons, List.map_cons, String.intercalate_cons_cons]
      cases logic with
      | all =>
          exact (written_binary "&&" (by simp [operators_eq]) (by simp) hfirst (ih d)).of_eq
            (by simp) (by simp [joint])
      | any =>
          exact (written_binary "||" (by simp [operators_eq]) (by simp) hfirst (ih d)).of_eq
            (by simp) (by simp [joint])

/-- The text of joined conditions is written. -/
theorem written_joined (vars : List Variable) (format : VariableFormat) (logic : Logic)
    (c : Condition) (cs : List Condition) :
    Written (guardExpression vars format { conditions := c :: cs, logic })
      (joinedSigns logic ((c :: cs).map (conditionSigns vars format))) := by
  cases cs with
  | nil => exact written_condition vars format c
  | cons d cs => exact written_intercalate vars format logic c (d :: cs)

/-- The text of a guard's expression is written. -/
theorem written_guardExpression (vars : List Variable) (format : VariableFormat) {g : Guard}
    (hne : g.conditions ≠ []) :
    Written (guardExpression vars format g) (guardSigns vars format g) := by
  obtain ⟨mode, conditions, logic⟩ := g
  obtain ⟨c, cs, rfl⟩ := List.exists_cons_of_ne_nil hne
  have hjoined := written_joined vars format logic c cs
  cases mode with
  | onlyIf => exact hjoined
  | skipIf =>
      exact (expression_parens hjoined).negated.of_eq (by simp [guardExpression]) rfl

/-- The statement of a guard is written. -/
theorem written_guard {g : Guard} {text : String} (h : guardStatement? vars format g = some text) :
    g.conditions ≠ [] ∧ Written text (onlyIf (guardSigns vars format g)) := by
  rw [guardStatement?] at h
  split_ifs at h with hempty
  have hne : g.conditions ≠ [] := by simpa using hempty
  obtain rfl := Option.some.inj h
  have hword : Written "onlyIf" [.ident "onlyIf"] := written_word (by decide)
  have hopen : Written "\x7b" [.op "\x7b"] := written_mark _ (by simp [operators_eq]) (by simp)
  have hclose : Written "\x7d" [.op "\x7d"] := written_mark _ (by simp [operators_eq]) (by simp)
  refine ⟨hne, (((hword.append_blank hopen).append_blank
    (written_guardExpression vars format hne)).append_blank hclose).of_eq (by simp) ?_⟩
  simp [onlyIf]

end Guards

end BuildGraph.Script
