import BuildGraph.Proofs.Script.Delimiters
import BuildGraph.Proofs.Script.Nesting

/-!
# Tokens whose delimiters pair up

`Paired` tokens leave open what was open before them, so they hold whole statements and are split
into them. `Spans` says of a recognizer that it passes over paired tokens only. The header of a
registration is one: `spans_registration`.
-/

namespace BuildGraph.Script

open Recognizer

variable {t : Token} {ts rest front back opened left : List Token}

section Pairs

theorem openAfter_append (opened front back : List Token) :
    openAfter opened (front ++ back) = (openAfter opened front).bind (openAfter · back) := by
  induction front generalizing opened with
  | nil => rfl
  | cons t front ih =>
      rw [List.cons_append, openAfter_cons, openAfter_cons]
      split_ifs
      · exact ih _
      · cases opened with
        | nil => rfl
        | cons o more =>
            dsimp only
            split_ifs
            · exact ih _
            · rfl
      · exact ih _

/-- What is open further out stays open. -/
theorem openAfter_base (h : openAfter opened ts = some left) (base : List Token) :
    openAfter (opened ++ base) ts = some (left ++ base) := by
  induction ts generalizing opened with
  | nil =>
      cases h
      rfl
  | cons t ts ih =>
      rw [openAfter_cons] at h ⊢
      split_ifs at h ⊢
      · exact ih h
      · cases opened with
        | nil => cases h
        | cons o more =>
            dsimp only [List.cons_append] at h ⊢
            split_ifs at h ⊢
            exact ih h
      · exact ih h

/-- Each opening delimiter is closed by the one that fits, and nothing else is closed. -/
def Paired (ts : List Token) : Prop := openAfter [] ts = some []

instance : Decidable (Paired ts) := inferInstanceAs (Decidable (openAfter [] ts = some []))

theorem paired_nil : Paired [] := rfl

theorem Paired.passes (h : Paired ts) (opened : List Token) :
    openAfter opened ts = some opened :=
  openAfter_base h opened

theorem Paired.append (h : Paired front) (h' : Paired back) : Paired (front ++ back) := by
  rw [Paired, openAfter_append, h.passes]
  exact h'

/-- What is left behind paired tokens at the front is paired. -/
theorem Paired.behind (h : Paired (front ++ back)) (hfront : Paired front) : Paired back := by
  rwa [Paired, openAfter_append, hfront.passes] at h

/-- A front part of paired tokens closes nothing that was open before. -/
theorem Paired.opens (h : Paired (front ++ back)) (opened : List Token) :
    ∃ inner, openAfter opened front = some (inner ++ opened) := by
  rw [Paired, openAfter_append] at h
  obtain ⟨inner, hinner, -⟩ := Option.bind_eq_some_iff.1 h
  exact ⟨inner, openAfter_base hinner opened⟩

/-- Tokens that neither open nor close anything are paired. -/
theorem paired_of_plain (h : ∀ t ∈ ts, t.closer? = none ∧ t.isCloser = false) : Paired ts := by
  induction ts with
  | nil => rfl
  | cons t ts ih =>
      obtain ⟨ht, hts⟩ := List.forall_mem_cons.1 h
      rw [Paired, openAfter_plain (by simp [ht]) (by simp [ht])]
      exact ih hts

theorem plain_of_kind (h : t.kind ≠ .op) : t.closer? = none ∧ t.isCloser = false := by
  simp [Token.closer?, Token.isCloser, h]

theorem plain_of_op {mark : String} (h : t.isOp mark = true)
    (hmark : (Sign.op mark).isPlain = true) : t.closer? = none ∧ t.isCloser = false := by
  simp only [Token.isOp, Bool.and_eq_true, beq_iff_eq] at h
  refine closes_nothing_of_isPlain ?_
  rwa [Token.sign, h.1, h.2]

theorem plain_of_separator (h : t.isSeparator = true) :
    t.closer? = none ∧ t.isCloser = false := by
  simp only [Token.isSeparator, Bool.or_eq_true, beq_iff_eq] at h
  rcases h with (hkind | hkind) | hop
  · exact plain_of_kind (by simp [hkind])
  · exact plain_of_kind (by simp [hkind])
  · exact plain_of_op hop rfl

/-- Whether tokens are paired shows in their signs. -/
theorem openAfter_signs {ts' opened' : List Token}
    (hopened : opened.map Token.sign = opened'.map Token.sign)
    (h : ts.map Token.sign = ts'.map Token.sign) :
    (openAfter opened ts).map (List.map Token.sign) =
      (openAfter opened' ts').map (List.map Token.sign) := by
  induction ts generalizing ts' opened opened' with
  | nil =>
      obtain rfl := List.map_eq_nil_iff.1 h.symm
      simp [openAfter, hopened]
  | cons t ts ih =>
      obtain ⟨t', ts', rfl, ht, hts⟩ := List.map_eq_cons_iff.1 h.symm
      have hsame : ∀ {u u' : Token}, u.sign = u'.sign → u.closer? = u'.closer? ∧
          u.isCloser = u'.isCloser ∧ u.value = u'.value := by
        intro u u' hu
        obtain ⟨hkind, hvalue⟩ := Prod.ext_iff.1 hu
        simp only [Token.sign] at hkind hvalue
        simp [Token.closer?, Token.isCloser, hkind, hvalue]
      obtain ⟨hopens, hcloses, hvalue⟩ := hsame ht
      rw [openAfter_cons, openAfter_cons, hopens, hcloses, hvalue]
      split_ifs
      · exact ih (by simp [hopened, ht]) hts.symm
      · cases opened with
        | nil =>
            obtain rfl := List.map_eq_nil_iff.1 hopened.symm
            rfl
        | cons o more =>
            obtain ⟨o', more', rfl, ho, hmore⟩ := List.map_eq_cons_iff.1 hopened.symm
            dsimp only
            rw [(hsame ho).1]
            split_ifs
            · exact ih hmore.symm hts.symm
            · rfl
      · exact ih hopened hts.symm

theorem paired_signs {ts' : List Token} (h : ts.map Token.sign = ts'.map Token.sign)
    (hpaired : Paired ts) : Paired ts' := by
  have hsame : (openAfter [] ts).map (List.map Token.sign) =
      (openAfter [] ts').map (List.map Token.sign) := openAfter_signs rfl h
  rw [Paired] at hpaired
  rw [hpaired] at hsame
  obtain ⟨left, hleft, hnil⟩ := Option.map_eq_some_iff.1 hsame.symm
  obtain rfl := List.map_eq_nil_iff.1 hnil
  exact hleft

end Pairs

section Statements

variable {last : Option Token} {count n : Nat}

/-- How the reading of a statement gets over the tokens at the front: the statement ends among them,
or the reading breaks off there since they close what is not open, or it goes on behind them with
what is open then. -/
inductive GetsOver (opened : List Token) (last : Option Token) (count : Nat)
    (front rest : List Token) : Prop
  | ends {n : Nat} : n ≤ count + front.length →
      statementLength opened last count (front ++ rest) = .ok n →
      GetsOver opened last count front rest
  | breaks {cause : Unbalanced} : openAfter opened front = none →
      statementLength opened last count (front ++ rest) = .error cause →
      GetsOver opened last count front rest
  | goes {left : List Token} : openAfter opened front = some left →
      statementLength opened last count (front ++ rest) = statementLength left
        ((front.filter Token.isSignificant).getLast?.or last) (count + front.length) rest →
      GetsOver opened last count front rest

/-- One token is passed over, and then the others. -/
theorem GetsOver.cons {opened' : List Token} {last' : Option Token}
    (hlength : statementLength opened last count (t :: (front ++ rest)) =
      statementLength opened' last' (count + 1) (front ++ rest))
    (hopen : openAfter opened (t :: front) = openAfter opened' front)
    (hlast : ((t :: front).filter Token.isSignificant).getLast?.or last =
      (front.filter Token.isSignificant).getLast?.or last')
    (h : GetsOver opened' last' (count + 1) front rest) :
    GetsOver opened last count (t :: front) rest := by
  have hcount : count + 1 + front.length = count + (t :: front).length := by
    rw [List.length_cons]
    omega
  cases h with
  | ends hle hread => exact .ends (hcount ▸ hle) (hlength.trans hread)
  | breaks hnone hread => exact .breaks (hopen.trans hnone) (hlength.trans hread)
  | goes hleft hread =>
      refine .goes (hopen.trans hleft) ?_
      rw [hlast, ← hcount, ← hread]
      exact hlength

theorem getLast?_cons_insignificant (h : t.isSignificant = false) (last : Option Token) :
    ((t :: front).filter Token.isSignificant).getLast?.or last =
      (front.filter Token.isSignificant).getLast?.or last := by
  rw [List.filter_cons_of_neg (by simp [h])]

theorem getLast?_cons_significant (h : t.isSignificant = true) (last : Option Token) :
    ((t :: front).filter Token.isSignificant).getLast?.or last =
      (front.filter Token.isSignificant).getLast?.or (some t) := by
  rw [List.filter_cons_of_pos h, List.getLast?_cons]
  cases (front.filter Token.isSignificant).getLast? <;> rfl

theorem gets_over (opened : List Token) (last : Option Token) (count : Nat)
    (front rest : List Token) : GetsOver opened last count front rest := by
  induction front generalizing opened last count with
  | nil => exact .goes rfl rfl
  | cons t front ih =>
      have hdone : statementLength opened last count (t :: (front ++ rest)) = .ok count →
          GetsOver opened last count (t :: front) rest := fun h => .ends (Nat.le_add_right _ _) h
      have hplain : t.kind ≠ .op → openAfter opened (t :: front) = openAfter opened front :=
        fun hkind => openAfter_plain (by simp [plain_of_kind hkind])
          (by simp [plain_of_kind hkind]) opened front
      have hstep := statementLength.eq_def opened last count (t :: (front ++ rest))
      dsimp only at hstep
      split_ifs at hstep with hcomment hend hbreak hgoes hopens hcloses
      · have ht : t.isSignificant = false := by simp [Token.isSignificant, hcomment]
        exact .cons hstep (hplain (by simp [hcomment])) (getLast?_cons_insignificant ht _)
          (ih _ _ _)
      · exact hdone hstep
      · exact hdone hstep
      · have ht : t.isSignificant = false := by simp [Token.isSignificant, hbreak]
        exact .cons hstep (hplain (by simp [hbreak])) (getLast?_cons_insignificant ht _) (ih _ _ _)
      -- the token is significant from here on
      all_goals have ht : t.isSignificant = true := by simp [Token.isSignificant, hcomment, hbreak]
      · exact .cons hstep (openAfter_opener hopens opened front) (getLast?_cons_significant ht _)
          (ih _ _ _)
      · cases opened with
        | nil =>
            refine .breaks ?_ hstep
            rw [openAfter_cons, if_neg hopens, if_pos hcloses]
        | cons o more =>
            dsimp only at hstep
            split_ifs at hstep with hfits
            · exact .cons hstep (openAfter_closer hopens hcloses hfits more front)
                (getLast?_cons_significant ht _) (ih _ _ _)
            · refine .breaks ?_ hstep
              rw [openAfter_cons, if_neg hopens, if_pos hcloses]
              exact if_neg hfits
      · exact .cons hstep (openAfter_plain hopens hcloses opened front)
          (getLast?_cons_significant ht _) (ih _ _ _)

/-- A statement that starts at a token holds it, unless the token stands between statements. -/
theorem lt_of_statementLength (ht : t.isSeparator = false)
    (h : statementLength [] last count (t :: rest) = .ok n) : count < n := by
  simp only [Token.isSeparator, Bool.or_eq_false_iff, beq_eq_false_iff_ne] at ht
  obtain ⟨⟨hbreak, hcomment⟩, hsemicolon⟩ := ht
  rw [statementLength] at h
  simp only [hcomment, hbreak, hsemicolon, if_false, Bool.and_false, Bool.false_eq_true] at h
  split_ifs at h
  · exact (openAfter_of_statementLength h).1
  · exact (openAfter_of_statementLength h).1

/-- Paired tokens start with a whole statement. -/
theorem Paired.statementLength (h : Paired ts) (last : Option Token) (count : Nat) :
    ∃ n, statementLength [] last count ts = .ok n := by
  have hover := gets_over [] last count ts []
  rw [Paired] at h
  cases hover with
  | ends _ hread => exact ⟨_, by rwa [List.append_nil] at hread⟩
  | breaks hnone => cases hnone.symm.trans h
  | goes hleft hread =>
      cases hleft.symm.trans h
      exact ⟨_, by rwa [List.append_nil] at hread⟩

/-- Paired tokens are split into statements. -/
theorem splitFrom_of_paired {skip : Nat} (h : Paired (ts.drop skip)) (place : Nat) :
    ∃ ranges, splitFrom skip place ts = .ok ranges := by
  induction ts generalizing skip place with
  | nil => exact ⟨[], rfl⟩
  | cons t rest ih =>
      cases skip with
      | succ more => exact ih h _
      | zero =>
          rw [splitFrom]
          split_ifs with hseparator
          · have hsplit : Paired ([t] ++ rest) := h
            have hrest : Paired (rest.drop 0) :=
              hsplit.behind (paired_of_plain (by simpa using plain_of_separator hseparator))
            exact ih hrest _
          · obtain ⟨n, hn⟩ := h.statementLength none 0
            rw [List.drop_zero] at hn
            have hpos := lt_of_statementLength (by simpa using hseparator) hn
            have hstatement : Paired ((t :: rest).take n) := (openAfter_of_statementLength hn).2
            have hbehind : Paired (rest.drop (n - 1)) := by
              obtain ⟨k, rfl⟩ : ∃ k, n = k + 1 := ⟨n - 1, by omega⟩
              have hsplit : Paired ((t :: rest).take (k + 1) ++ rest.drop k) := by simpa using h
              exact hsplit.behind hstatement
            obtain ⟨ranges, hranges⟩ := ih hbehind (place + 1)
            exact ⟨(place, place + n) :: ranges, by simp only [hn, hranges]; rfl⟩

theorem Paired.split (h : Paired ts) : ∃ statements, split ts = .ok statements := by
  obtain ⟨ranges, hranges⟩ := splitFrom_of_paired (show Paired (ts.drop 0) from h) 0
  exact ⟨_, by rw [Script.split, hranges]; rfl⟩

end Statements

section Groups

/-- Where the search for a closing delimiter ends, it has closed what was open. -/
theorem openAfter_through_close {place found : Nat}
    (h : searchClose opened place ts = .found found) :
    place ≤ found + 1 ∧ openAfter opened (ts.take (found + 1 - place)) = some [] := by
  induction ts generalizing opened place with
  | nil => cases h
  | cons t ts ih =>
      rw [searchClose_cons] at h
      split_ifs at h with hopens hcloses
      · exact openAfter_take_cons (openAfter_opener hopens opened) (ih h)
      · cases opened with
        | nil => cases h
        | cons o more =>
            dsimp only at h
            split_ifs at h with hfits hlast
            · cases h
              obtain rfl := List.isEmpty_iff.1 hlast
              simp [openAfter_closer hopens hcloses hfits, openAfter]
            · exact openAfter_take_cons (openAfter_closer hopens hcloses hfits more) (ih h)
      · exact openAfter_take_cons (openAfter_plain hopens hcloses opened) (ih h)

/-- Among all of the tokens, the closing delimiter is the one that is searched for. -/
theorem matchingClose_eq_ok_iff {close : Nat} :
    matchingClose ts 0 ts.length = .ok close ↔ searchClose [] 0 ts = .found close := by
  rw [matchingClose, List.take_length, List.drop_zero]
  constructor
  · intro h
    split at h
    · next place hplace => rwa [Except.ok.inj h] at hplace
    · cases h
    · split_ifs at h
      split at h <;> cases h
  · intro h
    rw [h]

theorem lt_of_searchClose {place found : Nat} (h : searchClose opened place ts = .found found) :
    found < place + ts.length := by
  induction ts generalizing opened place with
  | nil => cases h
  | cons t ts ih =>
      rw [List.length_cons, Nat.add_comm ts.length 1, ← Nat.add_assoc]
      rw [searchClose_cons] at h
      split_ifs at h
      · exact ih h
      · cases opened with
        | nil => cases h
        | cons o more =>
            dsimp only at h
            split_ifs at h
            · cases h
              omega
            · exact ih h
      · exact ih h

end Groups

section Spans

variable {α β : Type} {c c' c'' : Cursor} {r r' : Recognizer α} {f : α → Recognizer β}

/-- Between the two places are paired tokens. -/
def Span (c c' : Cursor) : Prop :=
  ∃ read, c.rest = read ++ c'.rest ∧ c'.pos = c.pos + read.length ∧ Paired read

theorem Span.refl (c : Cursor) : Span c c := ⟨[], rfl, rfl, paired_nil⟩

theorem Span.trans (h : Span c c') (h' : Span c' c'') : Span c c'' := by
  obtain ⟨read, hrest, hpos, hread⟩ := h
  obtain ⟨more, hrest', hpos', hmore⟩ := h'
  refine ⟨read ++ more, ?_, ?_, hread.append hmore⟩
  · rw [hrest, hrest', List.append_assoc]
  · rw [hpos', hpos, List.length_append, Nat.add_assoc]

theorem span_advance (c : Cursor) {count : Nat} (hcount : count ≤ c.rest.length)
    (h : Paired (c.rest.take count)) : Span c (c.advance count) :=
  ⟨c.rest.take count, (List.take_append_drop _ _).symm,
    by rw [List.length_take_of_le hcount, Cursor.advance], h⟩

/-- What is passed over before the next significant token is paired. -/
theorem span_skip (c : Cursor) : Span c c.skip := by
  have htake : c.rest.take (c.rest.takeWhile fun t => !t.isSignificant).length =
      c.rest.takeWhile fun t => !t.isSignificant :=
    (List.prefix_iff_eq_take.1 (List.takeWhile_prefix _)).symm
  refine span_advance c (List.takeWhile_sublist _).length_le ?_
  rw [htake]
  refine paired_of_plain fun t ht => plain_of_kind fun hkind => ?_
  simpa [Token.isSignificant, hkind] using List.mem_takeWhile_imp ht

theorem span_next (h : c.next.1 = some t) (ht : t.closer? = none ∧ t.isCloser = false) :
    Span c c.next.2 := by
  rw [Cursor.next] at h ⊢
  cases hrest : c.skip.rest with
  | nil => simp [hrest] at h
  | cons u rest =>
      simp only [hrest, Option.some.injEq] at h ⊢
      subst h
      exact (span_skip c).trans
        (span_advance _ (by simp [hrest]) (paired_of_plain (by simpa [hrest] using ht)))

/-- What is looked at ahead stands behind tokens that are passed over. -/
theorem exists_of_peek (h : c.peek 0 = some t) :
    ∃ gap after, c.rest = gap ++ t :: after ∧ gap.filter Token.isSignificant = [] ∧
      t.isSignificant = true ∧ c.skip = ⟨t :: after, c.pos + gap.length⟩ := by
  obtain ⟨ts, pos⟩ := c
  induction ts generalizing pos with
  | nil => cases h
  | cons u ts ih =>
      rw [Cursor.peek] at h
      cases hu : u.isSignificant with
      | true =>
          rw [List.filter_cons_of_pos hu] at h
          cases h
          exact ⟨[], ts, rfl, rfl, hu, by simp [Cursor.skip, Cursor.advance, hu]⟩
      | false =>
          rw [List.filter_cons_of_neg (by simp [hu])] at h
          obtain ⟨gap, after, hrest, hgap, ht, hskip⟩ := ih (pos + 1) h
          refine ⟨u :: gap, after, congrArg (u :: ·) hrest, ?_, ht, ?_⟩
          · rwa [List.filter_cons_of_neg (by simp [hu])]
          · simp only [Cursor.skip, Cursor.advance, Cursor.mk.injEq] at hskip ⊢
            simp only [List.takeWhile_cons, hu, Bool.not_false, if_true, List.length_cons,
              List.drop_succ_cons]
            exact ⟨hskip.1, by omega⟩

/-- What is looked at ahead is what is read next. -/
theorem next_of_peek (h : c.peek 0 = some t) :
    c.next.1 = some t ∧ ∀ offset, c.next.2.peek offset = c.peek (offset + 1) := by
  obtain ⟨gap, after, hrest, hgap, ht, hskip⟩ := exists_of_peek h
  have hnext : c.next = (some t, ⟨after, c.pos + gap.length + 1⟩) := by
    simp [Cursor.next, hskip, Cursor.advance]
  refine ⟨by rw [hnext], fun offset => ?_⟩
  simp [Cursor.peek, hnext, hrest, hgap, ht]

/-- The recognizer passes over paired tokens. -/
def Spans (r : Recognizer α) : Prop := ∀ c a c', r c = .found a c' → Span c c'

theorem spans_pure (a : α) : Spans (pure a : Recognizer α) := by
  intro c b c' h
  cases h
  exact .refl c

theorem spans_absent : Spans (absent : Recognizer α) := by
  intro c a c' h
  cases h

theorem Spans.bind (hr : Spans r) (hf : ∀ a, Spans (f a)) : Spans (r >>= f) := by
  intro c b c'' h
  change andThen r f c = _ at h
  rw [andThen] at h
  cases hread : r c with
  | found a c' =>
      rw [hread] at h
      exact (hr c a c' hread).trans (hf a c' b c'' h)
  | absent => simp [hread] at h
  | stopped cause => simp [hread] at h

theorem Spans.orElse (h : Spans r) (h' : Spans r') : Spans (r <|> r') := by
  intro c a c' hread
  change Recognizer.orElse r r' c = _ at hread
  rw [Recognizer.orElse] at hread
  split at hread
  · exact h' c a c' hread
  · exact h c a c' hread

theorem Spans.optional (h : Spans r) : Spans (optional r) := by
  intro c a c' hread
  rw [Recognizer.optional] at hread
  split at hread
  · next a rest hfound =>
      cases hread
      exact h c a _ hfound
  · cases hread
    exact .refl c
  · cases hread

theorem spans_require (test : Bool) : Spans (require test) := by
  cases test with
  | true => exact spans_pure ()
  | false => exact spans_absent

theorem spans_within (r : Recognizer α) (tokens : List Token) : Spans (within r tokens) := by
  intro c a c' h
  rw [within] at h
  split at h
  · cases h
    exact .refl c
  · cases h
  · cases h

theorem spans_token {test : Token → Bool}
    (h : ∀ t, test t = true → t.closer? = none ∧ t.isCloser = false) : Spans (token test) := by
  intro c t c' hread
  rw [token] at hread
  split at hread
  · next hnext =>
      split_ifs at hread with htest
      cases hread
      have hspan := span_next (congrArg Prod.fst hnext) (h _ htest)
      rwa [hnext] at hspan
  · cases hread

theorem spans_op {mark : String} (h : (Sign.op mark).isPlain = true) : Spans (op mark) :=
  (spans_token fun _ ht => plain_of_op ht h).bind fun _ => spans_pure ()

theorem plain_of_ident (h : (t.kind == .ident) = true) :
    t.closer? = none ∧ t.isCloser = false :=
  plain_of_kind (by simp [beq_iff_eq.1 h])

theorem spans_anyIdent : Spans anyIdent :=
  (spans_token fun _ => plain_of_ident).bind fun _ => spans_pure _

theorem spans_ident (name : String) : Spans (ident name) :=
  (spans_token fun _ ht => plain_of_ident (Bool.and_eq_true_iff.1 ht).1).bind
    fun _ => spans_pure ()

/-- A group is passed over, and what is inside of it is paired. -/
theorem group_span {opener : String} {inner : List Token}
    (hopener : (closerOf? opener).isSome = true) (h : group opener c = .found inner c') :
    Span c c' ∧ Paired inner := by
  rw [group] at h
  cases hrest : c.skip.rest with
  | nil => simp [hrest] at h
  | cons t rest =>
      simp only [hrest] at h
      split_ifs at h with hop
      have hopens : t.closer?.isSome = true := by
        simp only [Token.isOp, Bool.and_eq_true, beq_iff_eq] at hop
        simpa [Token.closer?, hop] using hopener
      split at h
      · cases h
      · next close hclose =>
          cases h
          have hfound := matchingClose_eq_ok_iff.1 hclose
          have hlength := lt_of_searchClose hfound
          refine ⟨(span_skip c).trans (span_advance _ ?_ ?_), ?_⟩
          · rw [hrest]
            omega
          · rw [hrest]
            exact (openAfter_through_close hfound).2
          · rw [searchClose_cons, if_pos hopens] at hfound
            obtain ⟨hle, hinside⟩ := openAfter_of_searchClose [] hfound
            obtain ⟨k, rfl⟩ : ∃ k, close = k + 1 := ⟨close - 1, by omega⟩
            simpa [Paired] using hinside

theorem spans_group {opener : String} (h : (closerOf? opener).isSome = true) :
    Spans (group opener) :=
  fun _ _ _ hread => (group_span h hread).1

end Spans

section Headers

theorem spans_qualifiedName (count : Nat) (name : String) : Spans (qualifiedName count name) := by
  induction count generalizing name with
  | zero => exact spans_pure name
  | succ count ih =>
      intro c a c' h
      rw [qualifiedName] at h
      beta_reduce at h
      split at h
      · next point t hpoint ht =>
          obtain ⟨hread, hahead⟩ := next_of_peek hpoint
          rw [← hahead 0] at ht
          obtain ⟨hread', -⟩ := next_of_peek ht
          split_ifs at h with hqualified
          · simp only [Bool.and_eq_true] at hqualified
            obtain ⟨⟨⟨hop, hident⟩, -⟩, -⟩ := hqualified
            exact ((span_next hread (plain_of_op hop rfl)).trans
              (span_next hread' (plain_of_ident hident))).trans (ih _ _ _ _ h)
          · cases h
            exact .refl c
      · cases h
        exact .refl c

theorem spans_typeName : Spans typeName :=
  spans_anyIdent.bind fun name c => spans_qualifiedName c.rest.length name c

theorem spans_typeArgument : Spans typeArgument :=
  (spans_op rfl).bind fun _ => spans_typeName.bind fun _ => (spans_op rfl).bind
    fun _ => spans_pure _

theorem spans_registerCall : Spans registerCall := by
  refine (spans_ident "tasks").bind fun _ => (spans_op rfl).bind fun _ => spans_anyIdent.bind
    fun _ => (spans_require _).bind fun _ => spans_typeArgument.optional.bind fun className =>
      (spans_group rfl).bind fun args => ?_
  split
  · exact (spans_require _).bind fun _ => spans_pure _
  · refine (spans_require _).bind fun _ => ?_
    split
    · exact spans_pure _
    · exact (spans_within _ _).bind fun _ => spans_pure _
  · exact spans_absent

theorem spans_delegatedClass (name : String) (className : Option String) :
    Spans (delegatedClass name className) := by
  intro c a c' h
  rw [delegatedClass] at h
  split at h
  · next args rest hgroup =>
      dsimp only at h
      split at h
      · cases h
        exact (group_span rfl hgroup).1
      · cases h
        exact .refl c
  · cases h
    exact span_skip c
  · cases h

theorem spans_delegatedValue : Spans delegatedValue :=
  (spans_ident "val").bind fun _ => spans_anyIdent.bind fun _ => (spans_require _).bind fun _ =>
    (spans_ident "by").bind fun _ => (spans_ident "tasks").bind fun _ => (spans_op rfl).bind
      fun _ => spans_anyIdent.bind fun _ => (spans_require _).bind fun _ =>
        spans_typeArgument.optional.bind fun _ => spans_delegatedClass _ _

/-- The header of a registration passes over paired tokens. -/
theorem spans_registration : Spans registration := by
  intro c header c' h
  rw [registration] at h
  split at h
  · cases h
  · exact spans_registerCall.orElse spans_delegatedValue c header c' h

end Headers

end BuildGraph.Script
