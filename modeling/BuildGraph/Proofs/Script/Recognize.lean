import BuildGraph.Proofs.Script.Delimiters

/-!
# What recognizers read

`Reads r signs a` says that a recognizer reads tokens of the given signs and finds a value, whatever
follows; `Misses r signs` that it finds nothing at tokens that begin so; and `ReadsAll r signs a`
that it reads tokens of the signs to their end. Each way to put recognizers together has its rules,
so what a recognizer reads follows from what its parts read.
-/

namespace BuildGraph.Script

namespace Recognizer

variable {α β : Type} {r r' : Recognizer α} {f : α → Recognizer β} {s : Sign}
  {signs more inner : List Sign} {a : α} {b : β} {opener closer : String}

/-- The recognizer reads tokens of the signs, whatever follows, and finds the value. -/
def Reads (r : Recognizer α) (signs : List Sign) (a : α) : Prop :=
  ∀ tokens rest pos, tokens.map Token.sign = signs →
    r ⟨tokens ++ rest, pos⟩ = .found a ⟨rest, pos + tokens.length⟩

/-- The recognizer finds nothing at tokens that begin with the signs. -/
def Misses (r : Recognizer α) (signs : List Sign) : Prop :=
  ∀ tokens rest pos, tokens.map Token.sign = signs → r ⟨tokens ++ rest, pos⟩ = .absent

/-- The recognizer reads tokens of the signs to their end and finds the value. -/
def ReadsAll (r : Recognizer α) (signs : List Sign) (a : α) : Prop :=
  ∀ tokens pos, tokens.map Token.sign = signs → ∃ pos', r ⟨tokens, pos⟩ = .found a ⟨[], pos'⟩

/-- The recognizer finds nothing at tokens of the signs with nothing behind them. -/
def MissesAll (r : Recognizer α) (signs : List Sign) : Prop :=
  ∀ tokens pos, tokens.map Token.sign = signs → r ⟨tokens, pos⟩ = .absent

theorem Misses.append (h : Misses r signs) (more : List Sign) : Misses r (signs ++ more) := by
  intro tokens rest pos htokens
  obtain ⟨front, back, rfl, hfront, -⟩ := List.map_eq_append_iff.1 htokens
  rw [List.append_assoc]
  exact h front (back ++ rest) pos hfront

/-- What is missed at one sign is missed whatever the other signs are. -/
theorem Misses.cons (h : Misses r [s]) (more : List Sign) : Misses r (s :: more) :=
  h.append more

theorem reads_pure (a : α) : Reads (pure a : Recognizer α) [] a := by
  intro tokens rest pos htokens
  obtain rfl := List.map_eq_nil_iff.1 htokens
  rfl

theorem Reads.bind (hr : Reads r signs a) (hf : Reads (f a) more b) :
    Reads (r >>= f) (signs ++ more) b := by
  intro tokens rest pos htokens
  obtain ⟨front, back, rfl, hfront, hback⟩ := List.map_eq_append_iff.1 htokens
  have hfirst := hr front (back ++ rest) pos hfront
  have hsecond := hf back rest (pos + front.length) hback
  change andThen r f _ = _
  rw [List.append_assoc, andThen, hfirst]
  simp only [hsecond, List.length_append, Nat.add_assoc]

/-- One sign is read, and then the others. -/
theorem Reads.step (hr : Reads r [s] a) (hf : Reads (f a) more b) :
    Reads (r >>= f) (s :: more) b :=
  hr.bind hf

/-- What is found without reading leaves all signs to what comes next. -/
theorem Reads.pass (hr : Reads r [] a) (hf : Reads (f a) more b) : Reads (r >>= f) more b :=
  hr.bind hf

/-- All signs are read before what comes next. -/
theorem Reads.last (hr : Reads r signs a) (hf : Reads (f a) [] b) : Reads (r >>= f) signs b := by
  have hbind := hr.bind hf
  rwa [List.append_nil] at hbind

theorem Misses.bind (h : Misses r signs) : Misses (r >>= f) signs := by
  intro tokens rest pos htokens
  change andThen r f _ = _
  rw [andThen, h tokens rest pos htokens]

/-- What is missed behind a sign that is read is missed. -/
theorem Reads.misses (hr : Reads r signs a) (hf : Misses (f a) more) :
    Misses (r >>= f) (signs ++ more) := by
  intro tokens rest pos htokens
  obtain ⟨front, back, rfl, hfront, hback⟩ := List.map_eq_append_iff.1 htokens
  have hfirst := hr front (back ++ rest) pos hfront
  have hsecond := hf back rest (pos + front.length) hback
  change andThen r f _ = _
  rw [List.append_assoc, andThen, hfirst]
  exact hsecond

theorem Reads.misses_step (hr : Reads r [s] a) (hf : Misses (f a) more) :
    Misses (r >>= f) (s :: more) :=
  hr.misses hf

theorem Reads.misses_pass (hr : Reads r [] a) (hf : Misses (f a) more) : Misses (r >>= f) more :=
  hr.misses hf

theorem Misses.all (h : Misses r signs) : MissesAll r signs := by
  intro tokens pos htokens
  have hmiss := h tokens [] pos htokens
  rwa [List.append_nil] at hmiss

theorem MissesAll.bind (h : MissesAll r signs) : MissesAll (r >>= f) signs := by
  intro tokens pos htokens
  change andThen r f _ = _
  rw [andThen, h tokens pos htokens]

theorem Reads.misses_all (hr : Reads r signs a) (hf : MissesAll (f a) more) :
    MissesAll (r >>= f) (signs ++ more) := by
  intro tokens pos htokens
  obtain ⟨front, back, rfl, hfront, hback⟩ := List.map_eq_append_iff.1 htokens
  have hfirst := hr front back pos hfront
  change andThen r f _ = _
  rw [andThen, hfirst]
  exact hf back (pos + front.length) hback

theorem Reads.misses_all_step (hr : Reads r [s] a) (hf : MissesAll (f a) more) :
    MissesAll (r >>= f) (s :: more) :=
  hr.misses_all hf

theorem MissesAll.orElse (h : MissesAll r signs) (h' : MissesAll r' signs) :
    MissesAll (r <|> r') signs := by
  intro tokens pos htokens
  change Recognizer.orElse r r' _ = _
  rw [Recognizer.orElse, h tokens pos htokens]
  exact h' tokens pos htokens

theorem Reads.orElse (h : Reads r signs a) : Reads (r <|> r') signs a := by
  intro tokens rest pos htokens
  change Recognizer.orElse r r' _ = _
  rw [Recognizer.orElse, h tokens rest pos htokens]

/-- What the first way misses the second way may read. -/
theorem Misses.orElse (h : Misses r signs) (h' : Reads r' signs a) :
    Reads (r <|> r') signs a := by
  intro tokens rest pos htokens
  change Recognizer.orElse r r' _ = _
  rw [Recognizer.orElse, h tokens rest pos htokens, ← h' tokens rest pos htokens]

theorem Misses.orElse_misses (h : Misses r signs) (h' : Misses r' signs) :
    Misses (r <|> r') signs := by
  intro tokens rest pos htokens
  change Recognizer.orElse r r' _ = _
  rw [Recognizer.orElse, h tokens rest pos htokens]
  exact h' tokens rest pos htokens

/-- What the first way misses is left to the second way and what comes next. -/
theorem Misses.orElse_bind_misses (h : Misses r signs) (h' : Misses (r' >>= f) signs) :
    Misses ((r <|> r') >>= f) signs := by
  intro tokens rest pos htokens
  have hchoice : (r <|> r') ⟨tokens ++ rest, pos⟩ = r' ⟨tokens ++ rest, pos⟩ := by
    change Recognizer.orElse r r' _ = _
    rw [Recognizer.orElse, h tokens rest pos htokens]
  rw [← h' tokens rest pos htokens]
  change andThen (r <|> r') f _ = andThen r' f _
  rw [andThen, andThen, hchoice]

/-- Something that may be there and is not there leaves all signs to what comes next. -/
theorem Misses.optional_bind {f : Option α → Recognizer β} (h : Misses r signs)
    (hf : Reads (f none) signs b) : Reads (optional r >>= f) signs b := by
  intro tokens rest pos htokens
  change andThen (optional r) f _ = _
  rw [andThen, optional, h tokens rest pos htokens, ← hf tokens rest pos htokens]

theorem Misses.optional_bind_misses {f : Option α → Recognizer β} (h : Misses r signs)
    (hf : Misses (f none) signs) : Misses (optional r >>= f) signs := by
  intro tokens rest pos htokens
  change andThen (optional r) f _ = _
  rw [andThen, optional, h tokens rest pos htokens, ← hf tokens rest pos htokens]

theorem Reads.optional (h : Reads r signs a) : Reads (optional r) signs (some a) := by
  intro tokens rest pos htokens
  rw [Recognizer.optional, h tokens rest pos htokens]

theorem reads_ofOption (a : α) : Reads (ofOption (some a)) [] a :=
  reads_pure a

theorem misses_absent : Misses (absent : Recognizer α) signs :=
  fun _ _ _ _ => rfl

theorem reads_require {test : Bool} (h : test = true) : Reads (require test) [] () := by
  rw [require, if_pos h]
  exact reads_pure ()

theorem misses_require {test : Bool} (h : test = false) : Misses (require test) signs := by
  rw [require, if_neg (by simp [h])]
  exact misses_absent

theorem ReadsAll.of_reads (h : Reads r signs a) : ReadsAll r signs a := by
  intro tokens pos htokens
  have hread := h tokens [] pos htokens
  rw [List.append_nil] at hread
  exact ⟨_, hread⟩

theorem Reads.bind_all (hr : Reads r signs a) (hf : ReadsAll (f a) more b) :
    ReadsAll (r >>= f) (signs ++ more) b := by
  intro tokens pos htokens
  obtain ⟨front, back, rfl, hfront, hback⟩ := List.map_eq_append_iff.1 htokens
  obtain ⟨pos', hsecond⟩ := hf back (pos + front.length) hback
  refine ⟨pos', ?_⟩
  change andThen r f _ = _
  rw [andThen, hr front back pos hfront]
  exact hsecond

theorem Reads.last_all (hr : Reads r signs a) (hf : ReadsAll (f a) [] b) :
    ReadsAll (r >>= f) signs b := by
  have hbind := hr.bind_all hf
  rwa [List.append_nil] at hbind

theorem Reads.step_all (hr : Reads r [s] a) (hf : ReadsAll (f a) more b) :
    ReadsAll (r >>= f) (s :: more) b :=
  hr.bind_all hf

theorem ReadsAll.orElse (h : ReadsAll r signs a) : ReadsAll (r <|> r') signs a := by
  intro tokens pos htokens
  obtain ⟨pos', hread⟩ := h tokens pos htokens
  refine ⟨pos', ?_⟩
  change Recognizer.orElse r r' _ = _
  rw [Recognizer.orElse, hread]

/-- At the end of the tokens a reading that must end there ends. -/
theorem readsAll_finished {a : α} : ReadsAll (finished >>= fun _ => pure a) [] a := by
  intro tokens pos htokens
  obtain rfl := List.map_eq_nil_iff.1 htokens
  exact ⟨pos, rfl⟩

/-- Tokens from another place are read to their end without moving. -/
theorem ReadsAll.within {tokens : List Token} (h : ReadsAll r inner a)
    (htokens : tokens.map Token.sign = inner) : Reads (within r tokens) [] a := by
  intro none rest pos hnone
  obtain rfl := List.map_eq_nil_iff.1 hnone
  obtain ⟨pos', hread⟩ := h tokens 0 htokens
  rw [Recognizer.within, hread]
  rfl

/-- What misses the tokens from another place misses. -/
theorem Misses.within {tokens : List Token} (h : Misses r inner)
    (htokens : tokens.map Token.sign = inner) : Misses (within r tokens) signs := by
  intro front rest pos _
  have hmiss := h tokens [] 0 htokens
  rw [List.append_nil] at hmiss
  rw [Recognizer.within, hmiss]

/-- A group is read, and what comes next is given what is inside. -/
theorem reads_group_bind {f : List Token → Recognizer β} (hpair : closerOf? opener = some closer)
    (hbalanced : Balanced inner)
    (hf : ∀ inside : List Token, inside.map Token.sign = inner → Reads (f inside) more b) :
    Reads (group opener >>= f) (.op opener :: (inner ++ .op closer :: more)) b := by
  intro tokens rest pos htokens
  obtain ⟨t, inside, u, after, rfl, ht, hinside, hu, hafter⟩ := exists_group_tokens htokens
  have hgroup := @group_eq _ _ _ (after ++ rest) _ _ _ hpair hbalanced ht hinside hu pos
  have hnext := hf inside hinside after rest (pos + (inside.length + 2)) hafter
  change andThen (group opener) f _ = _
  rw [List.cons_append, List.append_assoc, List.cons_append, andThen, hgroup]
  simp only [hnext, List.length_cons, List.length_append]
  congr 2
  omega

theorem misses_group_bind {f : List Token → Recognizer β} (hpair : closerOf? opener = some closer)
    (hbalanced : Balanced inner)
    (hf : ∀ inside : List Token, inside.map Token.sign = inner → Misses (f inside) more) :
    Misses (group opener >>= f) (.op opener :: (inner ++ .op closer :: more)) := by
  intro tokens rest pos htokens
  obtain ⟨t, inside, u, after, rfl, ht, hinside, hu, hafter⟩ := exists_group_tokens htokens
  have hgroup := @group_eq _ _ _ (after ++ rest) _ _ _ hpair hbalanced ht hinside hu pos
  have hnext := hf inside hinside after rest (pos + (inside.length + 2)) hafter
  change andThen (group opener) f _ = _
  rw [List.cons_append, List.append_assoc, List.cons_append, andThen, hgroup]
  exact hnext

theorem readsAll_group_bind {f : List Token → Recognizer β} (hpair : closerOf? opener = some closer)
    (hbalanced : Balanced inner)
    (hf : ∀ inside : List Token, inside.map Token.sign = inner → ReadsAll (f inside) more b) :
    ReadsAll (group opener >>= f) (.op opener :: (inner ++ .op closer :: more)) b := by
  intro tokens pos htokens
  obtain ⟨t, inside, u, after, rfl, ht, hinside, hu, hafter⟩ := exists_group_tokens htokens
  have hgroup := @group_eq _ _ _ after _ _ _ hpair hbalanced ht hinside hu pos
  obtain ⟨pos', hnext⟩ := hf inside hinside after (pos + (inside.length + 2)) hafter
  refine ⟨pos', ?_⟩
  change andThen (group opener) f _ = _
  rw [andThen, hgroup]
  exact hnext

section Tokens

variable {name mark text digits : String} {test : Token → Bool}

/-- The next token is read when it is significant and passes the test. -/
theorem token_cons {t : Token} (h : t.isSignificant = true) (rest : List Token) (pos : Nat) :
    token test ⟨t :: rest, pos⟩ = if test t then .found t ⟨rest, pos + 1⟩ else .absent := by
  simp [token, Cursor.next, Cursor.skip, Cursor.advance, h]

/-- A token of a sign is read as what is made of it, when the sign passes the test. -/
theorem reads_token {g : Token → Recognizer β} (hs : s.isSignificant = true)
    (htest : ∀ t : Token, t.sign = s → test t = true)
    (hg : ∀ t : Token, t.sign = s → Reads (g t) more b) :
    Reads (token test >>= g) (s :: more) b := by
  intro tokens rest pos htokens
  obtain ⟨t, tail, rfl, ht, htail⟩ := List.map_eq_cons_iff.1 htokens
  have hsignificant : t.isSignificant = true := by rw [isSignificant_eq, ht, hs]
  change andThen (token test) g _ = _
  rw [List.cons_append, andThen, token_cons hsignificant, if_pos (htest t ht)]
  simp only [hg t ht tail rest (pos + 1) htail, List.length_cons, Nat.add_assoc, Nat.add_comm 1]

/-- A token of a sign that does not pass the test is missed. -/
theorem misses_token {g : Token → Recognizer β} (hs : s.isSignificant = true)
    (htest : ∀ t : Token, t.sign = s → test t = false) : Misses (token test >>= g) [s] := by
  intro tokens rest pos htokens
  obtain ⟨t, tail, rfl, ht, htail⟩ := List.map_eq_cons_iff.1 htokens
  have hsignificant : t.isSignificant = true := by rw [isSignificant_eq, ht, hs]
  change andThen (token test) g _ = _
  rw [List.cons_append, andThen, token_cons hsignificant, if_neg (by simp [htest t ht])]

theorem reads_ops_nil : Reads (ops []) [] () :=
  reads_pure ()

/-- Operators are read one after another. -/
theorem reads_ops {marks : List String} : Reads (ops marks) (marks.map Sign.op) () := by
  induction marks with
  | nil => exact reads_ops_nil
  | cons mark marks ih =>
      exact reads_token rfl (fun t ht => by simp [isOp_of_sign ht]) fun _ _ => ih

theorem reads_op : Reads (op mark) [.op mark] () :=
  reads_ops

theorem misses_op (hs : s.isSignificant = true) (hne : s ≠ .op mark) : Misses (op mark) [s] := by
  refine misses_token hs fun t ht => ?_
  subst ht
  simpa [Token.isOp, Token.sign, Sign.op] using hne

theorem reads_ident : Reads (ident name) [.ident name] () := by
  refine reads_token rfl (fun t ht => ?_) fun _ _ => reads_pure ()
  simp only [Token.sign, Sign.ident, Prod.mk.injEq] at ht
  simp [Token.isIdent, ht]

theorem misses_ident (hs : s.isSignificant = true) (hne : s ≠ .ident name) :
    Misses (ident name) [s] := by
  refine misses_token hs fun t ht => ?_
  subst ht
  simpa [Token.isIdent, Token.sign, Sign.ident] using hne

theorem missesAll_op : MissesAll (op mark) [] := by
  intro tokens pos htokens
  obtain rfl := List.map_eq_nil_iff.1 htokens
  rfl

theorem missesAll_ident : MissesAll (ident name) [] := by
  intro tokens pos htokens
  obtain rfl := List.map_eq_nil_iff.1 htokens
  rfl

theorem reads_anyIdent : Reads anyIdent [.ident name] name := by
  refine reads_token rfl (fun t ht => ?_) fun t ht => ?_
  · simp only [Token.sign, Sign.ident, Prod.mk.injEq] at ht
    simp [ht]
  · simp only [Token.sign, Sign.ident, Prod.mk.injEq] at ht
    rw [ht.2]
    exact reads_pure name

theorem reads_string : Reads string [.string text] text := by
  refine reads_token rfl (fun t ht => ?_) fun t ht => ?_
  · simp only [Token.sign, Sign.string, Prod.mk.injEq] at ht
    simp [ht]
  · simp only [Token.sign, Sign.string, Prod.mk.injEq] at ht
    rw [ht.2]
    exact reads_pure text

theorem misses_string (hs : s.isSignificant = true) (hne : s.1 ≠ .string) :
    Misses string [s] := by
  refine misses_token hs fun t ht => ?_
  subst ht
  simpa [Token.sign] using hne

theorem reads_number : Reads number [.number digits] digits := by
  refine reads_token rfl (fun t ht => ?_) fun t ht => ?_
  · simp only [Token.sign, Sign.number, Prod.mk.injEq] at ht
    simp [ht]
  · simp only [Token.sign, Sign.number, Prod.mk.injEq] at ht
    rw [ht.2]
    exact reads_pure digits

/-- A group is missed at any other significant token. -/
theorem misses_group (hs : s.isSignificant = true) (hne : s ≠ .op opener) :
    Misses (group opener) [s] := by
  intro tokens rest pos htokens
  obtain ⟨t, tail, rfl, ht, -⟩ := List.map_eq_cons_iff.1 htokens
  have hsignificant : t.isSignificant = true := by rw [isSignificant_eq, ht, hs]
  have hop : t.isOp opener = false := by
    subst ht
    simpa [Token.isOp, Token.sign, Sign.op] using hne
  simp [group, Cursor.skip, Cursor.advance, hsignificant, hop]

/-- The text of a single literal. -/
theorem singleString?_eq {tokens : List Token} (htokens : tokens.map Token.sign = [.string text]) :
    singleString? tokens = some text := by
  obtain ⟨t, tail, rfl, ht, htail⟩ := List.map_eq_cons_iff.1 htokens
  obtain rfl := List.map_eq_nil_iff.1 htail
  have hsignificant : t.isSignificant = true := by rw [isSignificant_eq, ht]; rfl
  simp only [Token.sign, Sign.string, Prod.mk.injEq] at ht
  simp [singleString?, hsignificant, ht]

/-- A group with a single literal inside is read as its text. -/
theorem reads_stringIn (hpair : closerOf? opener = some closer) :
    Reads (stringIn opener) [.op opener, .string text, .op closer] text := by
  change Reads _ (.op opener :: ([.string text] ++ .op closer :: [])) _
  refine reads_group_bind hpair (.plain rfl .nil) fun inside hinside => ?_
  rw [singleString?_eq hinside]
  exact reads_ofOption text

end Tokens

end Recognizer

end BuildGraph.Script
