import BuildGraph.Proofs.Script.Recognize
import BuildGraph.Proofs.Script.Spelling
import BuildGraph.Script.Guard.Read

/-!
# Conditions that are read back

Every expression that is written for a condition is one atom. The first reading that does not miss
it reads all of it, and what it finds is the condition itself, except that a variable of a script
without declarations has become its default and that the right operand of a unary operator is gone.
-/

namespace BuildGraph.Script

open Recognizer

variable {signs more left right : List Sign} {tokens : List Token} {vars : List Variable}
  {format : VariableFormat} {declared : List String}

section Joints

/-- Delimiters are paired, nothing is passed over by readings, and outside all groups no operator
joins conditions. -/
structure Unjoined (signs : List Sign) : Prop where
  significant : AllSignificant signs
  conjoined : Uncut "&&" signs
  disjoined : Uncut "||" signs

theorem Unjoined.nil : Unjoined [] := ⟨by simp [AllSignificant], .nil, .nil⟩

theorem Unjoined.plain {s : Sign} (hs : s.isPlain = true ∧ s.isSignificant = true)
    (hne : s ≠ .op "&&" ∧ s ≠ .op "||") (h : Unjoined signs) : Unjoined (s :: signs) where
  significant := List.forall_mem_cons.2 ⟨hs.2, h.significant⟩
  conjoined := .plain hs.1 hne.1 h.conjoined
  disjoined := .plain hs.1 hne.2 h.disjoined

theorem Unjoined.balanced (h : Unjoined signs) : Balanced signs :=
  h.conjoined.balanced

theorem Unjoined.group {opener closer : String} {inner : List Sign}
    (hpair : closerOf? opener = some closer) (hinner : Balanced inner)
    (hsignificant : AllSignificant inner) (h : Unjoined signs) :
    Unjoined (.op opener :: (inner ++ .op closer :: signs)) where
  significant := by
    intro s hs
    simp only [List.mem_cons, List.mem_append] at hs
    rcases hs with rfl | hs | rfl | hs
    · rfl
    · exact hsignificant s hs
    · rfl
    · exact h.significant s hs
  conjoined := .group hpair hinner h.conjoined
  disjoined := .group hpair hinner h.disjoined

theorem Unjoined.append (h : Unjoined signs) (hmore : Unjoined more) :
    Unjoined (signs ++ more) where
  significant := fun s hs => (List.mem_append.1 hs).elim (h.significant s) (hmore.significant s)
  conjoined := h.conjoined.append hmore.conjoined
  disjoined := h.disjoined.append hmore.disjoined

theorem Unjoined.mark {mark : String}
    (hmark : (Sign.op mark).isPlain = true ∧ mark ≠ "&&" ∧ mark ≠ "||") (h : Unjoined signs) :
    Unjoined (.op mark :: signs) :=
  h.plain ⟨hmark.1, rfl⟩ ⟨by simp [Sign.op, hmark.2.1], by simp [Sign.op, hmark.2.2]⟩

theorem Unjoined.ident (name : String) (h : Unjoined signs) : Unjoined (.ident name :: signs) :=
  h.plain ⟨rfl, rfl⟩ ⟨by simp [Sign.ident, Sign.op], by simp [Sign.ident, Sign.op]⟩

theorem Unjoined.string (value : String) (h : Unjoined signs) : Unjoined (.string value :: signs) :=
  h.plain ⟨rfl, rfl⟩ ⟨by simp [Sign.string, Sign.op], by simp [Sign.string, Sign.op]⟩

theorem Unjoined.call (method : String) {inner : List Sign} (hinner : Unjoined inner)
    (h : Unjoined signs) : Unjoined (call method inner ++ signs) := by
  rw [Script.call, List.cons_append, List.cons_append, List.append_assoc]
  exact .ident _ (.group rfl hinner.balanced hinner.significant h)

theorem literals_unjoined (values : List String) : Unjoined (literals values) := by
  induction values with
  | nil => exact .nil
  | cons v values ih =>
      cases values with
      | nil => exact .string v .nil
      | cons w values =>
          rw [literals, List.map_cons, List.map_cons, List.intercalate_cons_cons]
          exact .string v (.mark (by decide) ih)

end Joints

section Operands

/-- The default that is written for a variable, empty if there is none of the name. -/
def writtenDefault (vars : List Variable) (name : String) : String :=
  ((variableNamed? vars name).map Variable.defaultValue).getD ""

/-- The signs of a look-up among the properties of the project, with a default. -/
def lookupSigns (name default : String) : List Sign :=
  .ident "project" :: .op "." :: (call "findProperty" [.string name] ++ .op "?." ::
    (call "toString" [] ++ [.op "?:", .string default]))

/-- The signs of the expression of an operand. -/
def operandSigns (vars : List Variable) (format : VariableFormat) (o : Operand) : List Sign :=
  match o.source, format with
  | .variable, .inline => [.string (writtenDefault vars o.value)]
  | .variable, .properties =>
    .op "(" :: (lookupSigns o.value (writtenDefault vars o.value) ++ [.op ")"])
  | .environment, _ =>
    .ident "System" :: .op "." :: (call "getenv" [.string o.value] ++ .op "." ::
      (call "orEmpty" [] ++ []))
  | .property, _ =>
    .ident "project" :: .op "." :: (call "findProperty" [.string o.value] ++ .op "?." ::
      (call "toString" [] ++ .op "." :: (call "orEmpty" [] ++ [])))
  | .literal, _ => [.string o.value]

/-- The operand that a script keeps: a variable that is not declared there is its default. -/
def keptOperand (vars : List Variable) (format : VariableFormat) (o : Operand) : Operand :=
  match o.source, format with
  | .variable, .inline => ⟨.literal, writtenDefault vars o.value⟩
  | _, _ => o

/-- A script that declares variables keeps every operand. -/
@[simp] theorem keptOperand_properties (vars : List Variable) (o : Operand) :
    keptOperand vars .properties o = o := by
  obtain ⟨source, value⟩ := o
  cases source <;> rfl

theorem misses_path_of_ident {name first : String} {names : List String} (h : name ≠ first) :
    Misses (path (first :: names)) [.ident name] := by
  cases names with
  | nil => exact misses_ident rfl (by simpa [Sign.ident] using h)
  | cons second names =>
      exact Misses.bind (misses_ident rfl (by simpa [Sign.ident] using h))

theorem misses_path {s : Sign} {first : String} {names : List String} (hs : s.isSignificant = true)
    (h : s.1 ≠ .ident) : Misses (path (first :: names)) [s] := by
  have hne : s ≠ .ident first := by
    rintro rfl
    exact h rfl
  cases names with
  | nil => exact misses_ident hs hne
  | cons second names => exact Misses.bind (misses_ident hs hne)

theorem reads_path_pair {first second : String} :
    Reads (path [first, second]) [.ident first, .op ".", .ident second] () :=
  reads_ident.step (reads_op.step reads_ident)

theorem lookupSigns_unjoined (name default : String) : Unjoined (lookupSigns name default) :=
  .ident _ (.mark (by decide) (.call _ (.string _ .nil) (.mark (by decide) (.call _ .nil
    (.mark (by decide) (.string _ .nil))))))

theorem operandSigns_unjoined (vars : List Variable) (format : VariableFormat) (o : Operand) :
    Unjoined (operandSigns vars format o) := by
  obtain ⟨source, value⟩ := o
  cases source with
  | «variable» =>
      cases format with
      | inline => exact .string _ .nil
      | properties =>
          have hinner := lookupSigns_unjoined value (writtenDefault vars value)
          exact .group rfl hinner.balanced hinner.significant .nil
  | environment =>
      exact .ident _ (.mark (by decide) (.call _ (.string _ .nil) (.mark (by decide)
        (.call _ .nil .nil))))
  | property =>
      exact .ident _ (.mark (by decide) (.call _ (.string _ .nil) (.mark (by decide)
        (.call _ .nil (.mark (by decide) (.call _ .nil .nil))))))
  | literal => exact .string _ .nil

/-- A look-up with a default between parentheses is read as the variable. -/
theorem reads_wrappedOperand (name default : String) :
    ReadsAll wrappedOperand (lookupSigns name default) ⟨.variable, name⟩ := by
  refine ReadsAll.orElse (reads_path_pair.bind_all ?_)
  refine (reads_stringIn rfl).bind_all (reads_op.step_all (reads_ident.step_all ?_))
  exact reads_ops.bind_all (reads_op.step_all (reads_string.step_all readsAll_finished))

/-- An operand is read back. -/
theorem reads_operand (vars : List Variable) (format : VariableFormat) (declared : List String)
    (o : Operand) :
    Reads (operand declared) (operandSigns vars format o) (keptOperand vars format o) := by
  have hliteral : ∀ value, Reads (operand declared) [.string value] ⟨.literal, value⟩ :=
    fun value => Reads.orElse (reads_string.step (reads_pure _))
  obtain ⟨source, value⟩ := o
  cases source with
  | «variable» =>
      cases format with
      | inline => exact hliteral _
      | properties =>
          -- the four readings in turn: literal, environment, property and parentheses
          refine Misses.orElse ?_ (Misses.orElse ?_ (Misses.orElse ?_ (Reads.orElse ?_)))
          · exact (misses_string rfl (by decide)).bind.cons _
          · exact (misses_path rfl (by decide)).bind.cons _
          · exact (misses_path rfl (by decide)).bind.cons _
          · exact reads_group_bind rfl (lookupSigns_unjoined _ _).balanced fun inside hinside =>
              ReadsAll.within (reads_wrappedOperand _ _) hinside
  | environment =>
      refine Misses.orElse ?_ (Reads.orElse ?_)
      · exact (misses_string rfl (by decide)).bind.cons _
      · refine reads_path_pair.bind ((reads_stringIn rfl).bind ?_)
        exact reads_op.step (reads_ident.step (reads_ops.last (reads_pure _)))
  | property =>
      refine Misses.orElse ?_ (Misses.orElse ?_ (Reads.orElse ?_))
      · exact (misses_string rfl (by decide)).bind.cons _
      · exact (misses_path_of_ident (by decide)).bind.cons _
      · refine reads_path_pair.bind ((reads_stringIn rfl).bind ?_)
        refine reads_op.step (reads_ident.step (reads_ops.bind ?_))
        exact reads_op.step (reads_ident.step (reads_ops.last (reads_pure _)))
  | literal => exact hliteral _

/-- An operand that is given to a method is read to its end. -/
theorem readsAll_wholeOperand (o : Operand)
    (htokens : tokens.map Token.sign = operandSigns vars format o) :
    Reads (wholeOperand declared tokens) [] (keptOperand vars format o) :=
  ReadsAll.within ((reads_operand vars format declared o).last_all readsAll_finished) htokens

end Operands

section Comparisons

/-- The signs behind an operand that make it a number. -/
def conversionSigns : List Sign :=
  .op "." :: (call "toDoubleOrNull" [] ++ [.op "?:", .ident "Double", .op ".", .ident "NaN"])

/-- The signs of an expression that is read as a number. -/
def numberSigns (signs : List Sign) : List Sign :=
  .op "(" :: (signs ++ conversionSigns ++ [.op ")"])

/-- The signs of a call of a method of an expression. -/
def methodSigns (signs : List Sign) (method : String) (inner : List Sign) : List Sign :=
  signs ++ .op "." :: call method inner

/-- The signs of a test whether an expression is one of some texts, whatever their case. -/
def memberSigns (signs : List Sign) (values : List String) : List Sign :=
  signs ++ .op "." :: (call "lowercase" [] ++ .ident "in" :: call "listOf" (literals values))

/-- The signs of a search for a pattern. -/
def searchSigns (pattern subject : List Sign) : List Sign :=
  call "Regex" pattern ++ .op "." :: call "containsMatchIn" subject

/-- The signs of the expression that compares two expressions. -/
def comparisonSigns (operator : Operator) (left right : List Sign) : List Sign :=
  match operator with
  | .isEmpty => methodSigns left "isBlank" []
  | .isNotEmpty => methodSigns left "isNotBlank" []
  | .isTrue => memberSigns left ["true", "1"]
  | .isFalse => memberSigns left ["false", "0", ""]
  | .equals => left ++ .op "==" :: right
  | .notEquals => left ++ .op "!=" :: right
  | .contains => methodSigns left "contains" right
  | .notContains => .op "!" :: methodSigns left "contains" right
  | .startsWith => methodSigns left "startsWith" right
  | .endsWith => methodSigns left "endsWith" right
  | .matches =>
    .ident "runCatching" :: .op "\x7b" :: (searchSigns right left ++ .op "\x7d" :: .op "." ::
      call "getOrDefault" [.ident "false"])
  | .greaterThan => numberSigns left ++ .op ">" :: numberSigns right
  | .lessThan => numberSigns left ++ .op "<" :: numberSigns right
  | .greaterOrEqual => numberSigns left ++ .op ">=" :: numberSigns right
  | .lessOrEqual => numberSigns left ++ .op "<=" :: numberSigns right

/-- The signs of the expression of a condition. -/
def conditionSigns (vars : List Variable) (format : VariableFormat) (c : Condition) : List Sign :=
  comparisonSigns c.operator (operandSigns vars format c.left) (operandSigns vars format c.right)

/-- The condition that a script keeps. -/
def keptCondition (vars : List Variable) (format : VariableFormat) (c : Condition) : Condition where
  left := keptOperand vars format c.left
  operator := c.operator
  right := if c.operator.isUnary then {} else keptOperand vars format c.right

/-- What follows an operand and a point is read as a test of the operand. -/
theorem reads_textAtom_method {o : Operand} {c : Condition}
    (h : Reads (methodAtom declared (keptOperand vars format o)) signs c) :
    Reads (textAtom declared) (operandSigns vars format o ++ .op "." :: signs) c := by
  refine (reads_operand vars format declared o).bind (Misses.orElse ?_ (Misses.orElse ?_ ?_))
  · exact (misses_op rfl (by decide)).bind.cons _
  · exact (misses_op rfl (by decide)).bind.cons _
  · exact reads_op.step h

/-- Two operands are compared by the sign of equality between them. -/
theorem reads_textAtom_equals (left right : Operand) :
    Reads (textAtom declared)
      (operandSigns vars format left ++ .op "==" :: operandSigns vars format right)
      ⟨keptOperand vars format left, .equals, keptOperand vars format right⟩ := by
  refine (reads_operand vars format declared left).bind (Reads.orElse (reads_op.step ?_))
  exact (reads_operand vars format declared right).last (reads_pure _)

theorem reads_textAtom_notEquals (left right : Operand) :
    Reads (textAtom declared)
      (operandSigns vars format left ++ .op "!=" :: operandSigns vars format right)
      ⟨keptOperand vars format left, .notEquals, keptOperand vars format right⟩ := by
  refine (reads_operand vars format declared left).bind (Misses.orElse ?_ (Reads.orElse ?_))
  · exact (misses_op rfl (by decide)).bind.cons _
  · exact reads_op.step ((reads_operand vars format declared right).last (reads_pure _))

/-- A method that takes an expression is read with its operator. -/
theorem reads_methodAtom {method : String} {operator : Operator} (o : Operand) (left : Operand)
    (hbalanced : Balanced (operandSigns vars format o))
    (hblank : method ≠ "isBlank" ∧ method ≠ "isNotBlank" ∧ method ≠ "lowercase")
    (hmethod : textMethod? method = some operator) :
    Reads (methodAtom declared left) (call method (operandSigns vars format o))
      ⟨left, operator, keptOperand vars format o⟩ := by
  refine reads_anyIdent.step ?_
  rw [if_neg hblank.1, if_neg hblank.2.1, if_neg hblank.2.2, hmethod]
  refine (reads_ofOption operator).pass (reads_group_bind rfl hbalanced fun inside hinside => ?_)
  exact (readsAll_wholeOperand o hinside).pass (reads_pure _)

theorem reads_methodAtom_isBlank (left : Operand) :
    Reads (methodAtom declared left) (call "isBlank" []) ⟨left, .isEmpty, {}⟩ := by
  refine reads_anyIdent.step ?_
  rw [if_pos rfl]
  exact reads_ops.last (reads_pure _)

theorem reads_methodAtom_isNotBlank (left : Operand) :
    Reads (methodAtom declared left) (call "isNotBlank" []) ⟨left, .isNotEmpty, {}⟩ := by
  refine reads_anyIdent.step ?_
  rw [if_neg (by decide), if_pos rfl]
  exact reads_ops.last (reads_pure _)

/-- A test for the members of a list is read with its operator. -/
theorem reads_methodAtom_member {values : List String} {operator : Operator} (left : Operand)
    (hoperator : truthOperator? values = some operator) :
    Reads (methodAtom declared left)
      (call "lowercase" [] ++ .ident "in" :: call "listOf" (literals values))
      ⟨left, operator, {}⟩ := by
  refine reads_anyIdent.step ?_
  rw [if_neg (by decide), if_neg (by decide), if_pos rfl]
  refine reads_ops.bind (reads_ident.step (reads_ident.step ?_))
  refine reads_group_bind rfl (literals_balanced values) fun inside hinside => ?_
  rw [stringArguments?_intercalate hinside]
  refine (reads_ofOption values).pass ?_
  rw [hoperator]
  exact (reads_ofOption operator).pass (reads_pure _)

theorem conversionSigns_unjoined : Unjoined conversionSigns :=
  .mark (by decide) (.call _ .nil (.mark (by decide) (.ident _ (.mark (by decide)
    (.ident _ .nil)))))

/-- An operand between parentheses is read as a number. -/
theorem reads_numericOperand (o : Operand) :
    Reads (numericOperand declared) (numberSigns (operandSigns vars format o))
      (keptOperand vars format o) := by
  have hinner := (operandSigns_unjoined vars format o).append conversionSigns_unjoined
  refine reads_group_bind rfl hinner.balanced fun inside hinside => ?_
  refine ReadsAll.within ((reads_operand vars format declared o).bind_all ?_) hinside
  refine reads_op.step_all (reads_ident.step_all (reads_ops.bind_all (reads_op.step_all ?_)))
  exact reads_path_pair.last_all readsAll_finished

/-- Two numbers are compared by the operator between them. -/
theorem reads_numericAtom {mark : String} {operator : Operator} (left right : Operand)
    (hmark : ∀ t : Token, t.sign = .op mark → comparison? t = some operator) :
    Reads (numericAtom declared)
      (numberSigns (operandSigns vars format left) ++
        .op mark :: numberSigns (operandSigns vars format right))
      ⟨keptOperand vars format left, operator, keptOperand vars format right⟩ := by
  refine (reads_numericOperand left).bind (reads_token rfl (fun _ _ => rfl) fun t ht => ?_)
  rw [hmark t ht]
  exact (reads_ofOption operator).pass ((reads_numericOperand right).last (reads_pure _))

/-- A search for a pattern is read with the pattern on the right. -/
theorem reads_patternSearch (left right : Operand) :
    Reads (patternSearch declared)
      (searchSigns (operandSigns vars format right) (operandSigns vars format left))
      ⟨keptOperand vars format left, .matches, keptOperand vars format right⟩ := by
  have hleft := (operandSigns_unjoined vars format left).balanced
  have hright := (operandSigns_unjoined vars format right).balanced
  rw [searchSigns, call, List.cons_append, List.cons_append, List.append_assoc]
  refine reads_ident.step (reads_group_bind rfl hright fun pattern hpattern => ?_)
  refine reads_op.step (reads_ident.step (reads_group_bind rfl hleft fun subject hsubject => ?_))
  exact (readsAll_wholeOperand right hpattern).pass
    ((readsAll_wholeOperand left hsubject).pass (reads_pure _))

theorem unjoined_call (method : String) {inner : List Sign} (hinner : Unjoined inner) :
    Unjoined (call method inner) := by
  simpa using hinner.call method .nil

theorem methodSigns_unjoined (method : String) {inner : List Sign} (h : Unjoined signs)
    (hinner : Unjoined inner) : Unjoined (methodSigns signs method inner) :=
  h.append (.mark (by decide) (unjoined_call method hinner))

theorem memberSigns_unjoined (values : List String) (h : Unjoined signs) :
    Unjoined (memberSigns signs values) :=
  h.append (.mark (by decide)
    (.call _ .nil (.ident _ (unjoined_call _ (literals_unjoined values)))))

theorem numberSigns_unjoined (h : Unjoined signs) : Unjoined (numberSigns signs) := by
  have hinner := h.append conversionSigns_unjoined
  exact .group rfl hinner.balanced hinner.significant .nil

theorem searchSigns_unjoined {pattern subject : List Sign} (hpattern : Unjoined pattern)
    (hsubject : Unjoined subject) : Unjoined (searchSigns pattern subject) :=
  hpattern.call "Regex" (.mark (by decide) (unjoined_call _ hsubject))

/-- The expression of a condition holds no operator that joins conditions. -/
theorem comparisonSigns_unjoined (operator : Operator) (hleft : Unjoined left)
    (hright : Unjoined right) : Unjoined (comparisonSigns operator left right) := by
  cases operator with
  | equals | notEquals => exact hleft.append (.mark (by decide) hright)
  | contains | startsWith | endsWith => exact methodSigns_unjoined _ hleft hright
  | notContains => exact .mark (by decide) (methodSigns_unjoined _ hleft hright)
  | «matches» =>
      have hsearch := searchSigns_unjoined hright hleft
      exact .ident _ (.group rfl hsearch.balanced hsearch.significant (.mark (by decide)
        (unjoined_call _ (.ident _ .nil))))
  | greaterThan | lessThan | greaterOrEqual | lessOrEqual =>
      exact (numberSigns_unjoined hleft).append (.mark (by decide) (numberSigns_unjoined hright))
  | isEmpty | isNotEmpty => exact methodSigns_unjoined _ hleft .nil
  | isTrue | isFalse => exact memberSigns_unjoined _ hleft

end Comparisons

section Atoms

theorem misses_patternAtom {s : Sign} (hs : s.isSignificant = true)
    (hcatching : s ≠ .ident "runCatching") (hregex : s ≠ .ident "Regex") :
    Misses (patternAtom declared) [s] :=
  Misses.orElse_misses (misses_ident hs hcatching).bind (misses_ident hs hregex).bind

/-- What an operand starts with. -/
theorem operandSigns_eq_cons (vars : List Variable) (format : VariableFormat) (o : Operand) :
    ∃ s tail, operandSigns vars format o = s :: tail ∧ s.isSignificant = true ∧
      s ≠ .ident "runCatching" ∧ s ≠ .ident "Regex" ∧ s ≠ .op "!" := by
  obtain ⟨source, value⟩ := o
  cases source <;> cases format <;>
    exact ⟨_, _, rfl, rfl, by simp [Sign.ident, Sign.string, Sign.op],
      by simp [Sign.ident, Sign.string, Sign.op], by simp [Sign.ident, Sign.string, Sign.op]⟩

/-- No operand asks whether the project has a property. -/
theorem misses_hasProperty (vars : List Variable) (format : VariableFormat) (o : Operand) :
    Misses (path ["project", "hasProperty"]) (operandSigns vars format o) := by
  obtain ⟨source, value⟩ := o
  cases source with
  | «variable» =>
      cases format with
      | inline => exact misses_path rfl (by simp [Sign.string])
      | properties => exact (misses_path rfl (by simp [Sign.op])).cons _
  | environment => exact (misses_path_of_ident (by decide)).cons _
  | property =>
      exact reads_ident.misses_step (reads_op.misses_step ((misses_ident rfl (by decide)).cons _))
  | literal => exact misses_path rfl (by simp [Sign.string])

/-- No operand asks whether a value of the environment is there. -/
theorem misses_environmentTest (vars : List Variable) (format : VariableFormat) (o : Operand)
    {f : String → Recognizer Condition} (hf : ∀ name more, Misses (f name) (.op "." :: more)) :
    Misses (path ["System", "getenv"] >>= fun _ => stringIn "(" >>= f)
      (operandSigns vars format o) := by
  obtain ⟨source, value⟩ := o
  cases source with
  | «variable» =>
      cases format with
      | inline => exact (misses_path rfl (by simp [Sign.string])).bind
      | properties => exact (misses_path rfl (by simp [Sign.op])).bind.cons _
  | environment => exact reads_path_pair.misses ((reads_stringIn rfl).misses (hf _ _))
  | property => exact (misses_path_of_ident (by decide)).bind.cons _
  | literal => exact (misses_path rfl (by simp [Sign.string])).bind

/-- An operand is no test for presence. -/
theorem misses_presenceAtom (vars : List Variable) (format : VariableFormat) (o : Operand) :
    Misses presenceAtom (operandSigns vars format o) := by
  refine Misses.orElse_misses (Misses.optional_bind_misses ?_ ?_) ?_
  · obtain ⟨s, tail, hsigns, hs, -, -, hne⟩ := operandSigns_eq_cons vars format o
    rw [hsigns]
    exact (misses_op hs hne).cons _
  · exact (misses_hasProperty vars format o).bind
  · refine misses_environmentTest vars format o fun name more => Misses.orElse_misses ?_ ?_
    · exact (misses_op rfl (by decide)).bind.cons _
    · exact (Misses.optional_bind_misses (misses_op rfl (by decide))
        (misses_op rfl (by decide)).bind).cons _

/-- A negated operand is no test for presence. -/
theorem misses_presenceAtom_negated (vars : List Variable) (format : VariableFormat) (o : Operand) :
    Misses presenceAtom (.op "!" :: operandSigns vars format o) := by
  refine Misses.orElse_misses ?_ ?_
  · exact reads_op.optional.misses_step (misses_hasProperty vars format o).bind
  · exact (misses_path rfl (by simp [Sign.op])).bind.cons _

/-- Between its parentheses a look-up with a default is no operand, unless a variable has the name
`project`; then it is one that a call of `findProperty` follows. -/
theorem misses_operand_lookup {name default : String} {f : Operand → Recognizer Operand}
    (hf : ∀ o more, Misses (f o) (.op "." :: .ident "findProperty" :: more)) :
    Misses (operand declared >>= f) (lookupSigns name default) := by
  refine Misses.orElse_bind_misses ?_ (Misses.orElse_bind_misses ?_ (Misses.orElse_bind_misses ?_
    (Misses.orElse_bind_misses ?_ ?_)))
  · exact (misses_string rfl (by decide)).bind.cons _
  · exact (misses_path_of_ident (by decide)).bind.cons _
  · refine reads_path_pair.misses ((reads_stringIn rfl).misses ?_)
    refine reads_op.misses_step (reads_ident.misses_step (reads_ops.misses ?_))
    exact (misses_op rfl (by decide)).bind.cons _
  · exact (misses_group rfl (by decide)).bind.cons _
  · -- A declared variable may bear the name, and then it is read as that variable.
    cases hdeclared : declared.contains "project" with
    | true =>
        refine Reads.misses_step (a := ⟨.variable, "project"⟩) ?_ (hf _ _)
        refine reads_token rfl (fun t ht => ?_) fun t ht => ?_
        · simp only [Token.sign, Sign.ident, Prod.mk.injEq] at ht
          rw [ht.1, ht.2, hdeclared]
          rfl
        · simp only [Token.sign, Sign.ident, Prod.mk.injEq] at ht
          rw [ht.2]
          exact reads_pure _
    | false =>
        refine (misses_token rfl fun t ht => ?_).bind.cons _
        simp only [Token.sign, Sign.ident, Prod.mk.injEq] at ht
        rw [ht.1, ht.2, hdeclared]
        rfl

/-- An operand is no number. -/
theorem misses_numericAtom (vars : List Variable) (format : VariableFormat) (declared : List String)
    (o : Operand) : Misses (numericAtom declared) (operandSigns vars format o) := by
  have hfirst : ∀ {s : Sign}, s.isSignificant = true → s ≠ .op "(" →
      Misses (numericAtom declared) [s] := fun hs hne => (misses_group hs hne).bind.bind
  obtain ⟨source, value⟩ := o
  cases source with
  | «variable» =>
      cases format with
      | inline => exact hfirst rfl (by simp [Sign.string, Sign.op])
      | properties =>
          have hbalanced := (lookupSigns_unjoined value (writtenDefault vars value)).balanced
          refine Misses.bind (misses_group_bind rfl hbalanced fun inside hinside => ?_)
          -- the parentheses hold a look-up and no conversion to a number
          refine Misses.within (misses_operand_lookup fun o more => ?_) hinside
          exact reads_op.misses_step ((misses_ident rfl (by decide)).bind.cons _)
  | environment => exact (hfirst rfl (by simp [Sign.ident, Sign.op])).cons _
  | property => exact (hfirst rfl (by simp [Sign.ident, Sign.op])).cons _
  | literal => exact hfirst rfl (by simp [Sign.string, Sign.op])

/-- The condition that one reading finds in all of the tokens. -/
def wholeReading? (tokens : List Token) (reading : Recognizer Condition) : Option Condition :=
  match reading ⟨tokens, 0⟩ with
  | .found c rest => if rest.atEnd then some c else none
  | _ => none

theorem atom?_eq (declared : List String) (tokens : List Token) :
    atom? declared tokens = (atomReadings declared).findSome? (wholeReading? tokens) :=
  rfl

theorem wholeReading?_of_misses {reading : Recognizer Condition} (h : Misses reading signs)
    (htokens : tokens.map Token.sign = signs) : wholeReading? tokens reading = none := by
  have hmiss := h tokens [] 0 htokens
  rw [List.append_nil] at hmiss
  rw [wholeReading?, hmiss]

theorem wholeReading?_of_readsAll {reading : Recognizer Condition} {c : Condition}
    (h : ReadsAll reading signs c) (htokens : tokens.map Token.sign = signs) :
    wholeReading? tokens reading = some c := by
  obtain ⟨pos, hread⟩ := h tokens 0 htokens
  rw [wholeReading?, hread]
  rfl

/-- What starts with an operand and is read as a test or a comparison of texts is an atom. -/
theorem atom?_of_textAtom {o : Operand} {c : Condition}
    (h : Reads (textAtom declared) (operandSigns vars format o ++ signs) c)
    (htokens : tokens.map Token.sign = operandSigns vars format o ++ signs) :
    atom? declared tokens = some c := by
  have hpattern : Misses (patternAtom declared) (operandSigns vars format o ++ signs) := by
    obtain ⟨s, tail, hsigns, hs, hcatching, hregex, -⟩ := operandSigns_eq_cons vars format o
    rw [hsigns]
    exact (misses_patternAtom hs hcatching hregex).cons _
  have hnegated : Misses (negatedContainsAtom declared) (operandSigns vars format o ++ signs) := by
    obtain ⟨s, tail, hsigns, hs, -, -, hne⟩ := operandSigns_eq_cons vars format o
    rw [hsigns]
    exact (misses_op hs hne).bind.cons _
  have hpresence := (misses_presenceAtom vars format o).append signs
  have hnumeric := (misses_numericAtom vars format declared o).append signs
  -- The readings are tried in turn, and those before the last one miss the operand.
  rw [atom?_eq, atomReadings, List.findSome?_cons, wholeReading?_of_misses hpattern htokens,
    List.findSome?_cons, wholeReading?_of_misses hpresence htokens, List.findSome?_cons,
    wholeReading?_of_misses hnegated htokens, List.findSome?_cons,
    wholeReading?_of_misses hnumeric htokens, List.findSome?_cons,
    wholeReading?_of_readsAll (.of_reads h) htokens]

/-- What is read as a comparison of numbers is an atom. -/
theorem atom?_of_numericAtom {c : Condition} (h : Reads (numericAtom declared) (.op "(" :: signs) c)
    (htokens : tokens.map Token.sign = .op "(" :: signs) : atom? declared tokens = some c := by
  have hpattern : Misses (patternAtom declared) (.op "(" :: signs) :=
    (misses_patternAtom rfl (by decide) (by decide)).cons _
  have hpresence : Misses presenceAtom (.op "(" :: signs) := by
    refine Misses.cons (Misses.orElse_misses (Misses.optional_bind_misses ?_ ?_) ?_) _
    · exact misses_op rfl (by decide)
    · exact (misses_path rfl (by decide)).bind
    · exact (misses_path rfl (by decide)).bind
  have hnegated : Misses (negatedContainsAtom declared) (.op "(" :: signs) :=
    (misses_op rfl (by decide)).bind.cons _
  rw [atom?_eq, atomReadings, List.findSome?_cons, wholeReading?_of_misses hpattern htokens,
    List.findSome?_cons, wholeReading?_of_misses hpresence htokens, List.findSome?_cons,
    wholeReading?_of_misses hnegated htokens, List.findSome?_cons,
    wholeReading?_of_readsAll (.of_reads h) htokens]

/-- A negated test of containment is an atom. -/
theorem atom?_notContains (left right : Operand)
    (htokens : tokens.map Token.sign = comparisonSigns .notContains
      (operandSigns vars format left) (operandSigns vars format right)) :
    atom? declared tokens =
      some ⟨keptOperand vars format left, .notContains, keptOperand vars format right⟩ := by
  have hpattern : Misses (patternAtom declared) (.op "!" ::
      methodSigns (operandSigns vars format left) "contains" (operandSigns vars format right)) :=
    (misses_patternAtom rfl (by decide) (by decide)).cons _
  have hpresence : Misses presenceAtom (.op "!" :: methodSigns (operandSigns vars format left)
      "contains" (operandSigns vars format right)) :=
    (misses_presenceAtom_negated vars format left).append _
  have hnegated : Reads (negatedContainsAtom declared) (.op "!" ::
      methodSigns (operandSigns vars format left) "contains" (operandSigns vars format right))
      ⟨keptOperand vars format left, .notContains, keptOperand vars format right⟩ := by
    have hright := (operandSigns_unjoined vars format right).balanced
    refine reads_op.step ((reads_operand vars format declared left).bind ?_)
    refine reads_op.step (reads_ident.step (reads_group_bind rfl hright fun inside hinside => ?_))
    exact (readsAll_wholeOperand right hinside).pass (reads_pure _)
  rw [atom?_eq, atomReadings, List.findSome?_cons, wholeReading?_of_misses hpattern htokens,
    List.findSome?_cons, wholeReading?_of_misses hpresence htokens, List.findSome?_cons,
    wholeReading?_of_readsAll (.of_reads hnegated) htokens]

/-- A search for a pattern that is guarded against malformed patterns is an atom. -/
theorem atom?_matches (left right : Operand)
    (htokens : tokens.map Token.sign = comparisonSigns .matches
      (operandSigns vars format left) (operandSigns vars format right)) :
    atom? declared tokens =
      some ⟨keptOperand vars format left, .matches, keptOperand vars format right⟩ := by
  have hsearch := searchSigns_unjoined (operandSigns_unjoined vars format right)
    (operandSigns_unjoined vars format left)
  have hread : Reads (patternAtom declared) (comparisonSigns .matches
      (operandSigns vars format left) (operandSigns vars format right))
      ⟨keptOperand vars format left, .matches, keptOperand vars format right⟩ := by
    refine Reads.orElse (reads_ident.step (reads_group_bind rfl hsearch.balanced
      fun inside hinside => ?_))
    refine reads_op.step (reads_ident.step (reads_op.step (reads_ident.step (reads_op.step ?_))))
    exact ReadsAll.within ((reads_patternSearch left right).last_all readsAll_finished) hinside
  rw [atom?_eq, atomReadings, List.findSome?_cons,
    wholeReading?_of_readsAll (.of_reads hread) htokens]

/-- The expression of a condition is read back to the condition that is kept. -/
theorem atom?_conditionSigns (declared : List String) (c : Condition)
    (htokens : tokens.map Token.sign = conditionSigns vars format c) :
    atom? declared tokens = some (keptCondition vars format c) := by
  obtain ⟨left, operator, right⟩ := c
  cases operator with
  | equals => exact atom?_of_textAtom (reads_textAtom_equals left right) htokens
  | notEquals => exact atom?_of_textAtom (reads_textAtom_notEquals left right) htokens
  | contains | startsWith | endsWith =>
      exact atom?_of_textAtom (reads_textAtom_method (reads_methodAtom right _
        (operandSigns_unjoined vars format right).balanced (by decide) rfl)) htokens
  | notContains => exact atom?_notContains left right htokens
  | «matches» => exact atom?_matches left right htokens
  | greaterThan | lessThan | greaterOrEqual | lessOrEqual =>
      exact atom?_of_numericAtom (reads_numericAtom left right fun t ht => by
        simp [comparison?, isOp_of_sign ht]) htokens
  | isEmpty => exact atom?_of_textAtom (reads_textAtom_method (reads_methodAtom_isBlank _)) htokens
  | isNotEmpty =>
      exact atom?_of_textAtom (reads_textAtom_method (reads_methodAtom_isNotBlank _)) htokens
  | isTrue | isFalse =>
      exact atom?_of_textAtom (reads_textAtom_method (reads_methodAtom_member _ rfl)) htokens

end Atoms

end BuildGraph.Script
