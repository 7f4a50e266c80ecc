import BuildGraph.Proofs.Script.Spans

/-!
# One reading for a statement

The readings of a statement are tried one after another, and each that finds something has its
effect. No two of them find something in the same statement: the signs behind the first word differ,
or else the words behind these (`apart_statementReadings`). So a statement does what one of its
readings does alone, or nothing.
-/

namespace BuildGraph.Script

open Recognizer

variable {α β : Type} {r : Recognizer α} {f : α → Recognizer β} {offset : Nat}
  {P Q : Token → Prop} {t : Token} {tokens : List Token} {reading : Recognizer Effect}
  {readings : List (Recognizer Effect)}

section Signs

/-- Unless the recognizer finds nothing, the significant token some tokens further has the
property. -/
def Sees (r : Recognizer α) (offset : Nat) (P : Token → Prop) : Prop :=
  ∀ c, r c = .absent ∨ ∃ t, c.peek offset = some t ∧ P t

/-- The recognizer reads one significant token, or finds nothing. -/
def Takes (r : Recognizer α) : Prop :=
  ∀ c, r c = .absent ∨
    ∃ a c', r c = .found a c' ∧ ∀ offset, c'.peek offset = c.peek (offset + 1)

theorem value_of_isOp {mark : String} (h : t.isOp mark = true) : t.value = mark := by
  simp only [Token.isOp, Bool.and_eq_true, beq_iff_eq] at h
  exact h.2

theorem value_of_isIdent {name : String} (h : t.isIdent name = true) : t.value = name := by
  simp only [Token.isIdent, Bool.and_eq_true, beq_iff_eq] at h
  exact h.2

theorem skip_of_peek_none {c : Cursor} (h : c.peek 0 = none) : c.skip.rest = [] := by
  have hnone : ∀ t ∈ c.rest, (!t.isSignificant) = true := by
    rw [Cursor.peek, ← List.head?_eq_getElem?, List.head?_filter, List.find?_eq_none] at h
    simpa using h
  rw [Cursor.skip, List.takeWhile_eq_self_iff.2 hnone]
  simp [Cursor.advance]

/-- A token is read if it passes the test. -/
theorem token_cases (test : Token → Bool) (c : Cursor) :
    token test c = .absent ∨ ∃ t, c.peek 0 = some t ∧ test t = true ∧
      token test c = .found t c.next.2 ∧ ∀ offset, c.next.2.peek offset = c.peek (offset + 1) := by
  cases hpeek : c.peek 0 with
  | none =>
      refine .inl ?_
      rw [token, Cursor.next, skip_of_peek_none hpeek]
  | some t =>
      obtain ⟨hnext, hahead⟩ := next_of_peek hpeek
      rw [token]
      split
      · next u rest heq =>
          simp only [heq, Option.some.injEq] at hnext hahead ⊢
          subst hnext
          split_ifs with htest
          · exact .inr ⟨u, rfl, htest, rfl, hahead⟩
          · exact .inl rfl
      · exact .inl rfl

theorem sees_token (test : Token → Bool) : Sees (token test) 0 fun t => test t = true := by
  intro c
  obtain habsent | ⟨t, ht, htest, -⟩ := token_cases test c
  · exact .inl habsent
  · exact .inr ⟨t, ht, htest⟩

theorem takes_token (test : Token → Bool) : Takes (token test) := by
  intro c
  obtain habsent | ⟨t, -, -, hfound, hahead⟩ := token_cases test c
  · exact .inl habsent
  · exact .inr ⟨t, _, hfound, hahead⟩

theorem sees_group (opener : String) : Sees (group opener) 0 fun t => t.isOp opener = true := by
  intro c
  rw [group]
  cases hpeek : c.peek 0 with
  | none =>
      refine .inl ?_
      rw [skip_of_peek_none hpeek]
  | some t =>
      obtain ⟨gap, after, -, -, -, hskip⟩ := exists_of_peek hpeek
      rw [hskip]
      dsimp only
      split_ifs with hop
      · exact .inr ⟨t, rfl, hop⟩
      · exact .inl rfl

theorem Sees.bind (h : Sees r offset P) : Sees (r >>= f) offset P := by
  intro c
  refine (h c).imp_left fun habsent => ?_
  change andThen r f c = _
  rw [andThen, habsent]

theorem Sees.imp (h : Sees r offset P) (hPQ : ∀ t, P t → Q t) : Sees r offset Q :=
  fun c => (h c).imp_right fun ⟨t, ht, hP⟩ => ⟨t, ht, hPQ t hP⟩

theorem Sees.orElse {r r' : Recognizer α} (h : Sees r offset P) (h' : Sees r' offset P) :
    Sees (r <|> r') offset P := by
  intro c
  change Recognizer.orElse r r' c = _ ∨ _
  rw [Recognizer.orElse]
  obtain habsent | hseen := h c
  · rw [habsent]
    exact h' c
  · exact .inr hseen

/-- What is seen behind a token is seen one token further. -/
theorem Takes.sees (hr : Takes r) (hf : ∀ a, Sees (f a) offset P) :
    Sees (r >>= f) (offset + 1) P := by
  intro c
  change andThen r f c = _ ∨ _
  rw [andThen]
  obtain habsent | ⟨a, c', hfound, hahead⟩ := hr c
  · exact .inl (by rw [habsent])
  · rw [hfound, ← hahead]
    exact hf a c'

/-- Nothing is read behind a token to give its value another form. -/
theorem Takes.map (hr : Takes r) (g : α → β) : Takes (r >>= fun a => pure (g a)) := by
  intro c
  change andThen r _ c = _ ∨ ∃ b c', andThen r _ c = .found b c' ∧ _
  rw [andThen]
  obtain habsent | ⟨a, c', hfound, hahead⟩ := hr c
  · exact .inl (by rw [habsent])
  · exact .inr ⟨g a, c', by rw [hfound]; rfl, hahead⟩

theorem takes_anyIdent : Takes anyIdent :=
  (takes_token _).map _

theorem takes_op (mark : String) : Takes (op mark) :=
  (takes_token _).map fun _ => ()

theorem sees_op (mark : String) : Sees (op mark) 0 fun t => t.isOp mark = true :=
  (sees_token _).bind

/-- A word that is refused by what comes next is not read. -/
theorem sees_anyIdent_bind {f : String → Recognizer β} (allowed : String → Prop)
    (h : ∀ name, ¬ allowed name → ∀ c, f name c = .absent) :
    Sees (anyIdent >>= f) 0 fun t => allowed t.value := by
  intro c
  change andThen (andThen (token _) fun t => pure t.value) f c = _ ∨ _
  rw [andThen, andThen]
  obtain habsent | ⟨t, ht, -, hfound, -⟩ := token_cases (fun t => t.kind == .ident) c
  · exact .inl (by rw [habsent])
  · rw [hfound]
    by_cases hallowed : allowed t.value
    · exact .inr ⟨t, ht, hallowed⟩
    · exact .inl (h _ hallowed _)

theorem takes_ident (name : String) : Takes (ident name) :=
  (takes_token _).map _

theorem sees_ident (name : String) : Sees (ident name) 0 fun t => t.isIdent name = true :=
  (sees_token _).bind

end Signs

section Apart

/-- At every place one of the two recognizers finds nothing. -/
def Apart (r r' : Recognizer α) : Prop := ∀ c, r c = .absent ∨ r' c = .absent

theorem apart_of_sees {r r' : Recognizer α} (h : Sees r offset P) (h' : Sees r' offset Q)
    (hne : ∀ t, P t → ¬ Q t) : Apart r r' := by
  intro c
  obtain habsent | ⟨t, ht, hP⟩ := h c
  · exact .inl habsent
  · obtain habsent | ⟨u, hu, hQ⟩ := h' c
    · exact .inr habsent
    · cases ht.symm.trans hu
      exact absurd hQ (hne t hP)

/-- Recognizers that look for different signs are apart. -/
theorem apart_of_marks {r r' : Recognizer α} {mark mark' : String}
    (h : Sees r offset fun t => t.isOp mark = true)
    (h' : Sees r' offset fun t => t.isOp mark' = true) (hne : mark ≠ mark') : Apart r r' :=
  apart_of_sees h h' fun _ ht ht' => hne ((value_of_isOp ht).symm.trans (value_of_isOp ht'))

theorem sees_assignment : Sees assignment 1 fun t => t.isOp "=" = true :=
  takes_anyIdent.sees fun _ => (sees_op "=").bind

theorem sees_setterCall : Sees setterCall 1 fun t => t.isOp "." = true :=
  takes_anyIdent.sees fun _ => (sees_op ".").bind

theorem sees_methodCall (text : String) : Sees (methodCall text) 1 fun t => t.isOp "(" = true :=
  takes_anyIdent.sees fun _ => (sees_group "(").bind

theorem sees_guardStatement (text : String) (declared : List String) :
    Sees (guardStatement text declared) 1 fun t => t.isOp "\x7b" = true :=
  (takes_ident "onlyIf").sees fun _ => (sees_group "\x7b").bind

theorem sees_optionsStatement : Sees optionsStatement 1 fun t => t.isOp "." = true :=
  (takes_ident "options").sees fun _ => (sees_op ".").bind

/-- No option of a compiler is called `set` or `apply`. -/
theorem sees_compilerOption :
    Sees compilerOption 0 fun t => t.value ≠ "set" ∧ t.value ≠ "apply" := by
  refine sees_anyIdent_bind (fun name => name ≠ "set" ∧ name ≠ "apply") fun name hname c => ?_
  by_cases hset : name = "set"
  · subst hset
    rfl
  · obtain rfl : name = "apply" := by simpa [hset] using hname
    rfl

theorem apart_setterCall_optionsStatement : Apart setterCall optionsStatement := by
  have hsetter : Sees setterCall 2 fun t => t.isIdent "set" = true :=
    takes_anyIdent.sees fun _ => (takes_op ".").sees fun _ => (sees_ident "set").bind
  have hoptions : Sees optionsStatement 2 fun t => t.value ≠ "set" := by
    refine (takes_ident "options").sees fun _ => (takes_op ".").sees fun _ =>
      Sees.orElse (Sees.bind ((sees_ident "apply").imp fun t ht => ?_))
        (sees_compilerOption.imp fun t ht => ht.1)
    simp [value_of_isIdent ht]
  exact apart_of_sees hsetter hoptions fun t ht hne => hne (value_of_isIdent ht)

/-- At most one reading of a statement does not find nothing. -/
theorem apart_statementReadings (text : String) (declared : List String) :
    (statementReadings text declared).Pairwise Apart := by
  have hassignment := sees_assignment
  have hsetter := sees_setterCall
  have hcall := sees_methodCall text
  have hguard := sees_guardStatement text declared
  have hoptions := sees_optionsStatement
  simp only [statementReadings, List.pairwise_cons, List.forall_mem_cons]
  exact ⟨⟨apart_of_marks hassignment hsetter (by decide),
      apart_of_marks hassignment hcall (by decide), apart_of_marks hassignment hguard (by decide),
      apart_of_marks hassignment hoptions (by decide), List.forall_mem_nil _⟩,
    ⟨apart_of_marks hsetter hcall (by decide), apart_of_marks hsetter hguard (by decide),
      apart_setterCall_optionsStatement, List.forall_mem_nil _⟩,
    ⟨apart_of_marks hcall hguard (by decide), apart_of_marks hcall hoptions (by decide),
      List.forall_mem_nil _⟩,
    ⟨apart_of_marks hguard hoptions (by decide), List.forall_mem_nil _⟩,
    List.forall_mem_nil _, .nil⟩

end Apart

section Statements

/-- Whether a reading understands all of the statement. A reading that stops at delimiters leaves
the statement as not understood. -/
def understood (tokens : List Token) : List (Recognizer Effect) → Bool
  | [] => false
  | reading :: more =>
    match reading ⟨tokens, 0⟩ with
    | .absent => understood tokens more
    | .stopped _ => false
    | .found effect rest => effect.complete && rest.atEnd || understood tokens more

/-- What no reading finds anything in does nothing. -/
theorem readStatement_of_absent (h : ∀ reading ∈ readings, reading ⟨tokens, 0⟩ = .absent)
    (b : Block) : readStatement tokens readings b = .ok (b, []) := by
  induction readings with
  | nil => rfl
  | cons reading readings ih =>
      rw [List.forall_mem_cons] at h
      rw [readStatement, h.1]
      exact ih h.2

theorem understood_of_absent (h : ∀ reading ∈ readings, reading ⟨tokens, 0⟩ = .absent) :
    understood tokens readings = false := by
  induction readings with
  | nil => rfl
  | cons reading readings ih =>
      rw [List.forall_mem_cons] at h
      rw [understood, h.1]
      exact ih h.2

/-- The reading that does not find nothing is the only one that counts. -/
theorem only_reading (hapart : readings.Pairwise Apart) (hmem : reading ∈ readings)
    (hread : reading ⟨tokens, 0⟩ ≠ .absent) :
    (∀ b, readStatement tokens readings b = readStatement tokens [reading] b) ∧
      understood tokens readings = understood tokens [reading] := by
  induction readings with
  | nil => cases hmem
  | cons first readings ih =>
      rw [List.pairwise_cons] at hapart
      rcases List.mem_cons.1 hmem with rfl | hmem
      · -- the readings behind it find nothing
        have hothers : ∀ other ∈ readings, other ⟨tokens, 0⟩ = .absent := fun other hother =>
          (hapart.1 other hother ⟨tokens, 0⟩).resolve_left hread
        have hnothing := readStatement_of_absent hothers
        have hnone := understood_of_absent hothers
        constructor
        · intro b
          simp only [readStatement, hnothing]
        · simp only [understood, hnone]
      · have hfirst : first ⟨tokens, 0⟩ = .absent :=
          (hapart.1 reading hmem ⟨tokens, 0⟩).resolve_right hread
        obtain ⟨hstatement, hunderstood⟩ := ih hapart.2 hmem
        constructor
        · intro b
          rw [← hstatement b]
          simp only [readStatement, hfirst]
        · rw [← hunderstood]
          simp only [understood, hfirst]

end Statements

end BuildGraph.Script
