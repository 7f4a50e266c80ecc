import BuildGraph.Proofs.Script.Readings

/-!
# What stands behind a reading

A reading of a statement looks at the tokens that it reads and at no others: with other tokens
behind them it finds the same. `Local` says so of a recognizer, up to what may differ in the values.
Each way to put recognizers together has its rule, and `local_statementReadings` is about the
readings of a statement.
-/

namespace BuildGraph.Script

open Recognizer

variable {α β : Type} {S : α → α → Prop} {R : β → β → Prop} {r r' : Recognizer α}
  {f : α → Recognizer β} {t : Token} {ts gap : List Token} {c c' : Cursor} {a : α}

/-- What the recognizer finds, it finds whatever stands behind the tokens that it reads, up to a
relation of values. -/
def Local (S : α → α → Prop) (r : Recognizer α) : Prop :=
  ∀ c a c', r c = .found a c' → ∃ read, c.rest = read ++ c'.rest ∧
    ∀ back pos, ∃ a', r ⟨read ++ back, pos⟩ = .found a' ⟨back, pos + read.length⟩ ∧ S a a'

section Rules

theorem Local.imp {S' : α → α → Prop} (h : Local S r) (hS : ∀ a a', S a a' → S' a a') :
    Local S' r := by
  intro c a c' hread
  obtain ⟨read, hrest, hlocal⟩ := h c a c' hread
  refine ⟨read, hrest, fun back pos => ?_⟩
  obtain ⟨a', hfound, hsame⟩ := hlocal back pos
  exact ⟨a', hfound, hS a a' hsame⟩

/-- What is found without reading. -/
theorem local_pure (h : S a a) : Local S (pure a : Recognizer α) := by
  intro c b c' hread
  cases hread
  exact ⟨[], rfl, fun back pos => ⟨a, rfl, h⟩⟩

theorem local_absent : Local S (absent : Recognizer α) := by
  intro c a c' hread
  cases hread

theorem Local.bind (hr : Local Eq r) (hf : ∀ a, Local R (f a)) : Local R (r >>= f) := by
  intro c b c'' hread
  change andThen r f c = _ at hread
  rw [andThen] at hread
  cases hfirst : r c with
  | found a c' =>
      rw [hfirst] at hread
      obtain ⟨read, hrest, hlocal⟩ := hr c a c' hfirst
      obtain ⟨more, hmore, hnext⟩ := hf a c' b c'' hread
      refine ⟨read ++ more, by rw [hrest, hmore, List.append_assoc], fun back pos => ?_⟩
      obtain ⟨a', hfound, rfl⟩ := hlocal (more ++ back) pos
      obtain ⟨b', hlast, hsame⟩ := hnext back (pos + read.length)
      refine ⟨b', ?_, hsame⟩
      change andThen r f _ = _
      rw [List.append_assoc, andThen, hfound]
      simp only [hlast, List.length_append, Nat.add_assoc]
  | absent => simp [hfirst] at hread
  | stopped cause => simp [hfirst] at hread

/-- Of two ways to read that are apart, the one that finds something is the only one that does. -/
theorem Local.orElse (h : Local S r) (h' : Local S r') (hapart : Apart r r') :
    Local S (r <|> r') := by
  intro c a c' hread
  change Recognizer.orElse r r' c = _ at hread
  rw [Recognizer.orElse] at hread
  cases hfirst : r c with
  | absent =>
      rw [hfirst] at hread
      obtain ⟨read, hrest, hlocal⟩ := h' c a c' hread
      refine ⟨read, hrest, fun back pos => ?_⟩
      obtain ⟨a', hfound, hsame⟩ := hlocal back pos
      refine ⟨a', ?_, hsame⟩
      have habsent := (hapart ⟨read ++ back, pos⟩).resolve_right (by simp [hfound])
      change Recognizer.orElse r r' _ = _
      rw [Recognizer.orElse, habsent]
      exact hfound
  | found b rest =>
      rw [hfirst] at hread
      obtain ⟨read, hrest, hlocal⟩ := h c a c' (hfirst.trans hread)
      refine ⟨read, hrest, fun back pos => ?_⟩
      obtain ⟨a', hfound, hsame⟩ := hlocal back pos
      refine ⟨a', ?_, hsame⟩
      change Recognizer.orElse r r' _ = _
      rw [Recognizer.orElse, hfound]
  | stopped cause => simp [hfirst] at hread

theorem bind_bind {γ : Type} (r : Recognizer α) (f : α → Recognizer β) (g : β → Recognizer γ) :
    r >>= f >>= g = r >>= fun a => f a >>= g := by
  funext c
  change andThen (andThen r f) g c = andThen r _ c
  simp only [andThen]
  cases r c <;> rfl

/-- What two ways to read have in common at their start is read once. -/
theorem bind_orElse (r : Recognizer α) (f g : α → Recognizer β) :
    ((r >>= f) <|> (r >>= g)) = r >>= fun a => f a <|> g a := by
  funext c
  change Recognizer.orElse (andThen r f) (andThen r g) c = andThen r _ c
  simp only [Recognizer.orElse, andThen]
  cases r c <;> rfl

theorem local_ofOption (o : Option α) : Local Eq (ofOption o) := by
  cases o with
  | none => exact local_absent
  | some a => exact local_pure rfl

theorem local_require (test : Bool) : Local Eq (require test) := by
  cases test with
  | false => exact local_absent
  | true => exact local_pure rfl

theorem local_within (r : Recognizer α) (tokens : List Token) : Local Eq (within r tokens) := by
  intro c a c' hread
  rw [within] at hread
  split at hread
  · next b rest hfound =>
      cases hread
      exact ⟨[], rfl, fun back pos => ⟨a, by simp [within, hfound], rfl⟩⟩
  · cases hread
  · cases hread

end Rules

section Tokens

/-- Tokens that are not significant are passed over. -/
theorem skip_over (hgap : gap.filter Token.isSignificant = []) (ht : t.isSignificant = true)
    (back : List Token) (pos : Nat) :
    Cursor.skip ⟨gap ++ t :: back, pos⟩ = ⟨t :: back, pos + gap.length⟩ := by
  have htake : (gap ++ t :: back).takeWhile (fun t => !t.isSignificant) = gap := by
    rw [List.takeWhile_append_of_pos (by simpa [List.filter_eq_nil_iff] using hgap),
      List.takeWhile_cons_of_neg (by simp [ht]), List.append_nil]
  rw [Cursor.skip, htake]
  simp [Cursor.advance]

theorem local_token (test : Token → Bool) : Local Eq (token test) := by
  intro c t c' hread
  obtain habsent | ⟨u, hpeek, htest, hfound, -⟩ := token_cases test c
  · cases habsent.symm.trans hread
  · cases hfound.symm.trans hread
    obtain ⟨gap, after, hrest, hgap, ht, hskip⟩ := exists_of_peek hpeek
    have hnext : c.next.2.rest = after := by simp [Cursor.next, hskip, Cursor.advance]
    refine ⟨gap ++ [t], by simp [hrest, hnext], fun back pos => ⟨t, ?_, rfl⟩⟩
    have hover := skip_over hgap ht back pos
    simp [token, Cursor.next, hover, htest, Cursor.advance, Nat.add_assoc]

theorem local_op (mark : String) : Local Eq (op mark) :=
  (local_token _).bind fun _ => local_pure rfl

theorem local_anyIdent : Local Eq anyIdent :=
  (local_token _).bind fun _ => local_pure rfl

theorem local_ident (name : String) : Local Eq (ident name) :=
  (local_token _).bind fun _ => local_pure rfl

theorem local_string : Local Eq string :=
  (local_token _).bind fun _ => local_pure rfl

theorem local_number : Local Eq number :=
  (local_token _).bind fun _ => local_pure rfl

theorem local_path (names : List String) : Local Eq (path names) := by
  induction names with
  | nil => exact local_pure rfl
  | cons name names ih =>
      cases names with
      | nil => exact local_ident name
      | cons second names =>
          exact (local_ident name).bind fun _ => (local_op ".").bind fun _ => ih

/-- The delimiter that closes all open ones is found whatever stands behind it. -/
theorem searchClose_take {opened : List Token} {place found : Nat}
    (h : searchClose opened place ts = .found found) (back : List Token) : place ≤ found ∧
      searchClose opened place (ts.take (found + 1 - place) ++ back) = .found found := by
  induction ts generalizing opened place with
  | nil => cases h
  | cons t ts ih =>
      have hstep : ∀ opened', (∀ rest, searchClose opened place (t :: rest) =
            searchClose opened' (place + 1) rest) →
          place ≤ found ∧
            searchClose opened place ((t :: ts).take (found + 1 - place) ++ back) = .found found := by
        intro opened' hcons
        obtain ⟨hle, hrest⟩ := ih ((hcons ts).symm.trans h)
        have hcount : found + 1 - place = found + 1 - (place + 1) + 1 := by omega
        refine ⟨by omega, ?_⟩
        rw [hcount, List.take_succ_cons, List.cons_append, hcons, hrest]
      have hcons := searchClose_cons opened place t
      rw [hcons] at h
      split_ifs at h hcons
      · exact hstep _ hcons
      · cases opened with
        | nil => cases h
        | cons o more =>
            dsimp only at h hcons
            split_ifs at h hcons
            · cases h
              refine ⟨le_refl _, ?_⟩
              simp [hcons]
            · exact hstep _ hcons
      · exact hstep _ hcons

theorem local_group (opener : String) : Local Eq (group opener) := by
  intro c inner c' hread
  obtain habsent | ⟨t, hpeek, hop⟩ := sees_group opener c
  · cases habsent.symm.trans hread
  · obtain ⟨gap, after, hrest, hgap, ht, hskip⟩ := exists_of_peek hpeek
    simp only [group, hskip, hop, if_true] at hread
    split at hread
    · cases hread
    · next close hclose =>
        cases hread
        have hfound := matchingClose_eq_ok_iff.1 hclose
        have hle : close ≤ after.length := by
          have hlt := lt_of_searchClose hfound
          rw [List.length_cons] at hlt
          omega
        refine ⟨gap ++ t :: after.take close, ?_, fun back pos => ⟨_, ?_, rfl⟩⟩
        · simp [hrest, Cursor.advance]
        · have hover := skip_over hgap ht (after.take close ++ back) pos
          have hagain := matchingClose_eq_ok_iff.2 (searchClose_take hfound back).2
          have htake : (after.take close ++ back).take (close - 1) = after.take (close - 1) := by
            rw [List.take_append_of_le_length (by simp; omega), List.take_take]
            simp
          have hdrop : (after.take close ++ back).drop close = back :=
            List.drop_left' (List.length_take_of_le hle)
          simp only [Nat.sub_zero, List.take_succ_cons, List.cons_append] at hagain
          simp only [group, List.append_assoc, List.cons_append, hover, hop, if_true, hagain]
          simp [Cursor.advance, hdrop, List.drop_take, htake, hle, Nat.add_assoc]

theorem local_stringIn (opener : String) : Local Eq (stringIn opener) :=
  (local_group opener).bind fun _ => local_ofOption _

end Tokens

section Values

/-- Words that are not the same start readings that are apart. -/
theorem apart_of_idents {f f' : Unit → Recognizer α} {name name' : String} (hne : name ≠ name') :
    Apart (ident name >>= f) (ident name' >>= f') :=
  apart_of_sees (sees_ident name).bind (sees_ident name').bind fun _ ht ht' =>
    hne ((value_of_isIdent ht).symm.trans (value_of_isIdent ht'))

theorem local_boolean : Local Eq boolean :=
  Local.orElse ((local_ident "true").bind fun _ => local_pure rfl)
    ((local_ident "false").bind fun _ => local_pure rfl) (apart_of_idents (by decide))

theorem local_integer : Local Eq integer := by
  refine local_number.bind fun digits c n c' hread => ?_
  -- no more tokens are read behind the digits
  cases hdigits : Number.isDigitText (integerText digits) with
  | false => simp [hdigits] at hread
  | true =>
      cases hinteger : Number.requireInteger (integerText digits) with
      | ok k =>
          simp only [hdigits, hinteger, if_true, Reading.found.injEq] at hread
          obtain ⟨rfl, rfl⟩ := hread
          exact ⟨[], rfl, fun back pos => ⟨k, rfl, rfl⟩⟩
      | error cause => simp [hdigits, hinteger] at hread

theorem local_fileCall : Local Eq fileCall :=
  (local_ident "file").bind fun _ => local_stringIn "("

theorem local_directory : Local Eq directory :=
  Local.orElse
    ((local_ident "layout").bind fun _ => (local_op ".").bind fun _ => local_anyIdent.bind fun _ =>
      (local_require _).bind fun _ => (local_op ".").bind fun _ => (local_ident "dir").bind
        fun _ => local_stringIn "(")
    local_fileCall (apart_of_idents (by decide))

theorem local_durationMinutes : Local Eq durationMinutes :=
  (local_path _).bind fun _ => (local_group "(").bind fun _ => local_within _ _

end Values

section Statements

theorem local_propertyValue (property : String) : Local Eq (propertyValue property) := by
  unfold propertyValue
  split_ifs
  · exact (local_ident _).bind fun _ => (local_op _).bind fun _ => local_anyIdent.bind fun _ =>
      (local_ofOption _).bind fun _ => local_pure rfl
  · exact local_directory.bind fun _ => local_pure rfl
  · exact local_fileCall.bind fun _ => local_pure rfl
  · exact local_durationMinutes.bind fun _ => local_pure rfl
  · split
    · exact local_string.bind fun _ => local_pure rfl
    · exact local_boolean.bind fun _ => local_pure rfl
    · exact local_integer.bind fun _ => local_pure rfl
    · exact local_absent

theorem local_assignment : Local Eq assignment :=
  local_anyIdent.bind fun property => (local_op "=").bind fun _ => local_propertyValue property

theorem local_setterCall : Local Eq setterCall := by
  refine local_anyIdent.bind fun property => (local_op ".").bind fun _ =>
    (local_ident "set").bind fun _ => (local_group "(").bind fun args => ?_
  split_ifs
  · exact (local_within _ _).bind fun _ => local_pure rfl
  · exact (local_ofOption _).bind fun _ => local_pure rfl
  · exact (local_within _ _).bind fun _ => local_pure rfl
  · exact local_absent

theorem local_methodCall (text : String) : Local Eq (methodCall text) := by
  refine local_anyIdent.bind fun method => (local_group "(").bind fun args => ?_
  split
  · exact local_pure rfl
  · exact (local_ofOption _).bind fun _ => local_pure rfl
  · exact local_ofOption _

theorem local_guardStatement (text : String) (declared : List String) :
    Local Eq (guardStatement text declared) := by
  refine (local_ident _).bind fun _ => (local_group _).bind fun body =>
    (local_require _).bind fun _ => ?_
  split <;> exact local_pure rfl

/-- Two effects do the same. Which of them is complete may differ. -/
structure SameEffect (e e' : Effect) : Prop where
  apply : e'.apply = e.apply
  warnings : e'.warnings = e.warnings

theorem local_compilerOption : Local SameEffect compilerOption := by
  refine local_anyIdent.bind fun property => Local.bind ?_ fun effect c e c' hread => ?_
  · split_ifs
    · exact (local_op _).bind fun _ => local_string.bind fun _ => local_pure rfl
    · exact (local_op _).bind fun _ => local_boolean.bind fun _ => local_pure rfl
    · exact (local_op _).bind fun _ => local_boolean.bind fun _ => local_pure rfl
    · refine (local_op _).bind fun _ => local_anyIdent.bind fun method =>
        (local_group _).bind fun args => Local.bind ?_ fun values => local_pure rfl
      split_ifs
      · exact local_within _ _
      · exact (local_ofOption _).bind fun _ => local_pure rfl
      · exact local_absent
    · exact local_absent
  · cases hread
    exact ⟨[], rfl, fun back pos => ⟨_, rfl, rfl, rfl⟩⟩

/-- A block of options, up to its end. -/
def optionsBody : Recognizer (List Token) := do
  ident "options"
  op "."
  ident "apply"
  group "\x7b"

/-- What the statements in a block of options do together. -/
def optionsIn (body : List Token) : Recognizer Effect := fun c =>
  match split body with
  | .ok statements => .found (compilerOptions statements) c
  | .error cause => .stopped (.unbalanced cause)

/-- A single option. -/
def singleOption : Recognizer Effect := do
  ident "options"
  op "."
  compilerOption

/-- A statement on options is a block of them, or a single one. -/
theorem optionsStatement_eq :
    optionsStatement = ((optionsBody >>= optionsIn) <|> singleOption) := by
  simp only [optionsBody, singleOption, bind_bind, bind_orElse]
  rfl

theorem local_optionsBody : Local Eq optionsBody :=
  (local_ident _).bind fun _ => (local_op _).bind fun _ => (local_ident _).bind fun _ =>
    local_group _

theorem local_optionsIn (body : List Token) : Local Eq (optionsIn body) := by
  intro c e c' hread
  rw [optionsIn] at hread
  split at hread
  · next statements hsplit =>
      cases hread
      exact ⟨[], rfl, fun back pos => ⟨_, by rw [optionsIn, hsplit]; rfl, rfl⟩⟩
  · cases hread

theorem local_singleOption : Local SameEffect singleOption :=
  (local_ident _).bind fun _ => (local_op _).bind fun _ => local_compilerOption

theorem apart_optionsBody_singleOption : Apart (optionsBody >>= optionsIn) singleOption := by
  have hblock : Sees (optionsBody >>= optionsIn) 2 fun t => t.isIdent "apply" = true :=
    Sees.bind ((takes_ident "options").sees fun _ => (takes_op ".").sees fun _ =>
      (sees_ident "apply").bind)
  have hsingle : Sees singleOption 2 fun t => t.value ≠ "apply" :=
    (takes_ident "options").sees fun _ => (takes_op ".").sees fun _ =>
      sees_compilerOption.imp fun t ht => ht.2
  exact apart_of_sees hblock hsingle fun t ht hne => hne (value_of_isIdent ht)

theorem Local.sameEffect {r : Recognizer Effect} (h : Local Eq r) : Local SameEffect r :=
  h.imp fun _ _ heq => heq ▸ ⟨rfl, rfl⟩

theorem local_optionsStatement : Local SameEffect optionsStatement := by
  rw [optionsStatement_eq]
  exact Local.orElse (local_optionsBody.bind local_optionsIn).sameEffect local_singleOption
    apart_optionsBody_singleOption

/-- The readings of a statement do the same whatever stands behind what they read. -/
theorem local_statementReadings (text : String) (declared : List String) :
    ∀ reading ∈ statementReadings text declared, Local SameEffect reading := by
  simp only [statementReadings, List.forall_mem_cons]
  exact ⟨local_assignment.sameEffect, local_setterCall.sameEffect,
    (local_methodCall text).sameEffect, (local_guardStatement text declared).sameEffect,
    local_optionsStatement, List.forall_mem_nil _⟩

end Statements

end BuildGraph.Script
