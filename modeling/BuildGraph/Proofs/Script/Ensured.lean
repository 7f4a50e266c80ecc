import Mathlib
import BuildGraph.Script.Cursor

/-!
# What recognizers ensure

`Ensures C S r P` says of a recognizer, wherever it starts, what it can come to: from tokens of the
sort `C` it only gets to tokens of this sort, what it finds has the property `P`, and the causes for
which it stops have the property `S`. A `Region` is a sort of tokens that no reading leaves, and
`Enclosed` if reading a group does not leave it either. `Yields r P` is about what is found alone.
Each way to put recognizers together has its rule, so what a recognizer ensures follows from what
its parts ensure.
-/

namespace BuildGraph.Script

namespace Recognizer

variable {α β : Type} {C : List Token → Prop} {T : Token → Prop} {S : Stop → Prop}
  {P Q : α → Prop} {R : β → Prop} {r r' : Recognizer α} {f : α → Recognizer β}

/-- What is found has the property and leaves tokens of the sort, and a stop has an admitted
cause. -/
def Admits (C : List Token → Prop) (S : Stop → Prop) (P : α → Prop) : Reading α → Prop
  | .found a rest => C rest.rest ∧ P a
  | .absent => True
  | .stopped cause => S cause

/-- From tokens of the sort, the recognizer comes to admitted readings alone. -/
def Ensures (C : List Token → Prop) (S : Stop → Prop) (r : Recognizer α) (P : α → Prop) : Prop :=
  ∀ c : Cursor, C c.rest → Admits C S P (r c)

theorem Ensures.weaken (h : Ensures C S r P) (hPQ : ∀ a, P a → Q a) : Ensures C S r Q := by
  intro c hc
  have hread := h c hc
  cases heq : r c with
  | found a rest =>
      rw [heq] at hread
      exact ⟨hread.1, hPQ a hread.2⟩
  | absent => trivial
  | stopped cause =>
      rw [heq] at hread
      exact hread

theorem ensures_pure {a : α} (h : P a) : Ensures C S (pure a : Recognizer α) P :=
  fun _ hc => ⟨hc, h⟩

theorem ensures_absent : Ensures C S (absent : Recognizer α) P :=
  fun _ _ => trivial

theorem Ensures.bind (hr : Ensures C S r P) (hf : ∀ a, P a → Ensures C S (f a) R) :
    Ensures C S (r >>= f) R := by
  intro c hc
  have hread := hr c hc
  change Admits C S R (andThen r f c)
  rw [andThen]
  cases heq : r c with
  | found a rest =>
      rw [heq] at hread
      exact hf a hread.2 rest hread.1
  | absent => trivial
  | stopped cause =>
      rw [heq] at hread
      exact hread

theorem Ensures.orElse (h : Ensures C S r P) (h' : Ensures C S r' P) :
    Ensures C S (r <|> r') P := by
  intro c hc
  have hread := h c hc
  change Admits C S P (Recognizer.orElse r r' c)
  rw [Recognizer.orElse]
  cases heq : r c with
  | found a rest =>
      rw [heq] at hread
      exact hread
  | absent => exact h' c hc
  | stopped cause =>
      rw [heq] at hread
      exact hread

theorem Ensures.optional (h : Ensures C S r P) :
    Ensures C S (optional r) fun o => ∀ a, o = some a → P a := by
  intro c hc
  have hread := h c hc
  rw [Recognizer.optional]
  cases heq : r c with
  | found a rest =>
      rw [heq] at hread
      exact ⟨hread.1, by simpa using hread.2⟩
  | absent => exact ⟨hc, by simp⟩
  | stopped cause =>
      rw [heq] at hread
      exact hread

theorem ensures_ofOption (o : Option α) : Ensures C S (ofOption o) fun a => o = some a := by
  cases o with
  | none => exact ensures_absent
  | some a => exact ensures_pure rfl

theorem ensures_require (test : Bool) : Ensures C S (require test) fun _ => test = true := by
  cases test with
  | false => exact ensures_absent
  | true => exact ensures_pure rfl

/-- Reading other tokens, be they of another sort, does not move. -/
theorem Ensures.within {D : List Token → Prop} (h : Ensures D S r P) {tokens : List Token}
    (htokens : D tokens) : Ensures C S (within r tokens) P := by
  intro c hc
  have hread := h ⟨tokens, 0⟩ htokens
  rw [Recognizer.within]
  cases heq : r ⟨tokens, 0⟩ with
  | found a rest =>
      rw [heq] at hread
      exact ⟨hc, hread.2⟩
  | absent => trivial
  | stopped cause =>
      rw [heq] at hread
      exact hread

end Recognizer

open Recognizer

section Yields

variable {α β : Type} {r r' : Recognizer α} {f : α → Recognizer β} {P : α → Prop} {Q : β → Prop}

/-- Whatever the recognizer finds has the property, wherever it starts. -/
def Yields (r : Recognizer α) (P : α → Prop) : Prop :=
  Ensures (fun _ => True) (fun _ => True) r P

theorem Yields.found (h : Yields r P) {c rest : Cursor} {a : α} (hread : r c = .found a rest) :
    P a := by
  have hadmits := h c trivial
  rw [hread] at hadmits
  exact hadmits.2

theorem yields_pure {a : α} (h : P a) : Yields (pure a : Recognizer α) P :=
  ensures_pure h

theorem Yields.bind (hr : Yields r P) (hf : ∀ a, P a → Yields (f a) Q) : Yields (r >>= f) Q :=
  Ensures.bind hr hf

/-- What is found in the end does not depend on what was found on the way. -/
theorem yields_bind (hf : ∀ a, Yields (f a) Q) : Yields (r >>= f) Q := by
  have hr : Yields r fun _ => True := by
    intro c _
    cases r c with
    | found a rest => exact ⟨trivial, trivial⟩
    | absent => trivial
    | stopped cause => trivial
  exact hr.bind fun a _ => hf a

theorem Yields.orElse (h : Yields r P) (h' : Yields r' P) : Yields (r <|> r') P :=
  Ensures.orElse h h'

theorem Yields.within (h : Yields r P) (tokens : List Token) : Yields (within r tokens) P :=
  Ensures.within h trivial

theorem yields_ofOption (o : Option α) : Yields (ofOption o) fun a => o = some a :=
  ensures_ofOption o

end Yields

/-- Values that are made one by one are as many as what they are made of, and have the property
that each of them is made with. -/
theorem forall_mem_of_mapM {α β : Type} {f : α → Option β} {P : β → Prop} {as : List α}
    {bs : List β} (hf : ∀ a ∈ as, ∀ b, f a = some b → P b) (h : as.mapM f = some bs) :
    bs.length = as.length ∧ ∀ b ∈ bs, P b := by
  induction as generalizing bs with
  | nil =>
      cases h
      simp
  | cons a as ih =>
      rw [List.forall_mem_cons] at hf
      rw [List.mapM_cons] at h
      obtain ⟨b, hb, h⟩ := Option.bind_eq_some_iff.1 h
      obtain ⟨more, hmore, h⟩ := Option.bind_eq_some_iff.1 h
      cases h
      obtain ⟨hlength, hall⟩ := ih hf.2 hmore
      exact ⟨congrArg (· + 1) hlength, List.forall_mem_cons.2 ⟨hf.1 b hb, hall⟩⟩

/-- A sort of tokens that no reading of single tokens leaves. `T` holds of all its tokens. -/
structure Region (C : List Token → Prop) (T : Token → Prop) : Prop where
  behind : ∀ {t : Token} {rest : List Token}, C (t :: rest) → C rest
  tokens : ∀ {ts : List Token}, C ts → ∀ t ∈ ts, T t

/-- A region that holds what is inside its groups. `S` holds of the causes for which a group cannot
be read. -/
structure Enclosed (C : List Token → Prop) (T : Token → Prop) (S : Stop → Prop) : Prop
    extends Region C T where
  group : ∀ opener, (closerOf? opener).isSome = true → Ensures C S (group opener) C

/-- A text stands in a string literal. -/
def Literal (T : Token → Prop) (text : String) : Prop :=
  ∃ t, T t ∧ t.kind = .string ∧ t.value = text

section Readings

variable {C : List Token → Prop} {T : Token → Prop} {S : Stop → Prop} {tokens : List Token}

namespace Region

theorem drop (region : Region C T) (h : C tokens) (n : Nat) : C (tokens.drop n) := by
  induction n generalizing tokens with
  | zero => exact h
  | succ n ih =>
      cases tokens with
      | nil => exact h
      | cons t tokens => exact ih (region.behind h)

theorem skip (region : Region C T) {c : Cursor} (h : C c.rest) : C c.skip.rest :=
  region.drop h _

theorem next (region : Region C T) {c : Cursor} (h : C c.rest) : C c.next.2.rest := by
  rw [Cursor.next]
  have hskip := region.skip h
  split
  · exact hskip
  · exact region.drop hskip 1

theorem token (region : Region C T) (test : Token → Bool) :
    Ensures C S (token test) fun t => T t ∧ test t = true := by
  intro c hc
  have hskip := region.skip hc
  rw [Recognizer.token, Cursor.next]
  cases hrest : c.skip.rest with
  | nil => trivial
  | cons t rest =>
      have hmem := region.tokens hskip t (by simp [hrest])
      dsimp only
      split_ifs with htest
      · exact ⟨region.drop hskip 1, hmem, htest⟩
      · trivial

theorem finished (region : Region C T) : Ensures C S finished fun _ => True := by
  intro c hc
  rw [Recognizer.finished]
  split_ifs
  · exact ⟨region.skip hc, trivial⟩
  · trivial

theorem ops (region : Region C T) (marks : List String) :
    Ensures C S (ops marks) fun _ => True := by
  induction marks with
  | nil => exact ensures_pure trivial
  | cons mark marks ih => exact (region.token _).bind fun _ _ => ih

theorem op (region : Region C T) (mark : String) : Ensures C S (op mark) fun _ => True :=
  region.ops [mark]

theorem anyIdent (region : Region C T) : Ensures C S anyIdent fun _ => True :=
  (region.token _).bind fun _ _ => ensures_pure trivial

theorem ident (region : Region C T) (name : String) : Ensures C S (ident name) fun _ => True :=
  (region.token _).bind fun _ _ => ensures_pure trivial

theorem path (region : Region C T) (names : List String) :
    Ensures C S (path names) fun _ => True := by
  induction names with
  | nil => exact ensures_pure trivial
  | cons name names ih =>
      cases names with
      | nil => exact region.ident name
      | cons second names =>
          exact (region.ident name).bind fun _ _ => (region.op ".").bind fun _ _ => ih

theorem string (region : Region C T) : Ensures C S string (Literal T) :=
  (region.token _).bind fun t ht => ensures_pure ⟨t, ht.1, by simpa using ht.2, rfl⟩

theorem number (region : Region C T) :
    Ensures C S number fun digits => ∃ t, T t ∧ t.kind = .number ∧ t.value = digits :=
  (region.token _).bind fun t ht => ensures_pure ⟨t, ht.1, by simpa using ht.2, rfl⟩

theorem singleString? (region : Region C T) (h : C tokens) {text : String}
    (htext : singleString? tokens = some text) : Literal T text := by
  rw [Script.singleString?] at htext
  split at htext
  · next t hfilter =>
      have hmem : t ∈ tokens := (List.mem_filter.1 (hfilter ▸ List.mem_singleton_self t)).1
      split_ifs at htext with hkind
      exact ⟨t, region.tokens h t hmem, hkind, Option.some.inj htext⟩
  · cases htext

end Region

theorem Enclosed.stringIn (region : Enclosed C T S) {opener : String}
    (hopener : (closerOf? opener).isSome = true) :
    Ensures C S (stringIn opener) (Literal T) :=
  (region.group opener hopener).bind fun _ hinner =>
    (ensures_ofOption _).weaken fun _ htext => region.singleString? hinner htext

end Readings

end BuildGraph.Script
