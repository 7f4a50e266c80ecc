import BuildGraph.Proofs.Script.Spans

/-!
# Where reading starts again

However the delimiters of some lines are broken, reading starts again at the head of a whole
statement on the lines behind them: no statement that is read to its end reaches over the line
break between the two, and no passing over a broken one does. `readTokens_restarts` is the
statement.
-/

namespace BuildGraph.Script

open Recognizer BuildGraph.Number

variable {t br : Token} {above below ts opened left : List Token} {cause : Unbalanced}
  {text : String} {f found : Findings} {comment : Option String} {n : Nat}

/-- The lines above a line break end with no operator that carries on, and paired tokens that start
with an identifier are below it. -/
structure Parted (above : List Token) (br : Token) (below : List Token) : Prop where
  ends : ∀ t ∈ (above.filter Token.isSignificant).getLast?, t.sign.carriesOn = false
  breaks : br.kind = .newline
  starts : ∃ t rest, below = t :: rest ∧ t.kind = .ident
  paired : Paired below

namespace Parted

/-- Fewer tokens above the line break end as all of them do. -/
theorem behind (h : Parted (t :: above) br below) : Parted above br below where
  ends := fun u hu => by
    refine h.ends u ?_
    cases ht : t.isSignificant with
    | true =>
        rw [List.filter_cons_of_pos ht, List.getLast?_cons, Option.mem_def.1 hu]
        rfl
    | false => rwa [List.filter_cons_of_neg (by simp [ht])]
  breaks := h.breaks
  starts := h.starts
  paired := h.paired

theorem significant (h : Parted above br below) :
    ∃ t rest, (br :: below).filter Token.isSignificant = t :: rest ∧ t.kind = .ident := by
  obtain ⟨t, rest, rfl, ht⟩ := h.starts
  exact ⟨t, rest.filter Token.isSignificant,
    by simp [Token.isSignificant, h.breaks, ht], ht⟩

/-- An operator behind tokens that are passed over stands above the line break. -/
theorem gap_lt {gap more behind : List Token} (h : Parted above br below)
    (hgap : gap.filter Token.isSignificant = []) (ht : t.isSignificant = true) (hop : t.kind = .op)
    (heq : more ++ br :: below = gap ++ t :: behind) : gap.length < more.length := by
  rcases List.append_eq_append_iff.1 heq with ⟨left, rfl, hbelow⟩ | ⟨left, rfl, hbehind⟩
  · -- the first significant token below the line break is an identifier
    obtain ⟨u, rest, hfilter, hu⟩ := h.significant
    rw [List.filter_append] at hgap
    rw [hbelow, List.filter_append, (List.append_eq_nil_iff.1 hgap).2, List.nil_append,
      List.filter_cons_of_pos ht] at hfilter
    obtain ⟨rfl, -⟩ := List.cons.inj hfilter
    rw [hop] at hu
    cases hu
  · cases left with
    | nil =>
        obtain ⟨rfl, -⟩ := List.cons.inj hbehind
        rw [h.breaks] at hop
        cases hop
    | cons u left => simp

theorem paired_break (h : Parted above br below) : Paired (br :: below) := by
  have hbreak : br.closer? = none ∧ br.isCloser = false := plain_of_kind (by simp [h.breaks])
  have hfirst : Paired [br] := paired_of_plain (by simpa using hbreak)
  exact hfirst.append h.paired

/-- A statement in which nothing is open ends at the line break. -/
theorem statementLength_break (h : Parted above br below) (count : Nat) :
    statementLength [] ((above.filter Token.isSignificant).getLast?.or none) count (br :: below) =
      .ok count := by
  obtain ⟨t, rest, rfl, ht⟩ := h.starts
  have hends := h.ends
  rw [Option.or_none]
  generalize (above.filter Token.isSignificant).getLast? = last at hends
  have hstays : goesOn last (t :: rest) = false := by
    rw [goesOn, List.find?_cons_of_pos (by simp [Token.isSignificant, ht]), Bool.or_eq_false_iff]
    refine ⟨?_, by simp [ht]⟩
    cases last with
    | none => rfl
    | some u => exact hends u rfl
  rw [statementLength]
  simp [h.breaks, hstays, Token.isOp]

end Parted

/-- Paired tokens do not close what is open before them, so no statement ends in them. -/
theorem opened_of_statementLength {last : Option Token} {count : Nat} (h : Paired ts)
    (hn : statementLength opened last count ts = .ok n) : opened = [] := by
  have hclosed := (openAfter_of_statementLength hn).2
  have hsplit : Paired (ts.take (n - count) ++ ts.drop (n - count)) := by simpa using h
  obtain ⟨inner, hinner⟩ := hsplit.opens opened
  rw [hclosed] at hinner
  exact (List.append_eq_nil_iff.1 (Option.some.inj hinner).symm).2

/-- A statement that starts above the line break ends above it. -/
theorem statementLength_le (h : Parted above br below)
    (hn : statementLength [] none 0 (above ++ br :: below) = .ok n) : n ≤ above.length := by
  cases gets_over [] none 0 above (br :: below) with
  | ends hle hread =>
      cases hread.symm.trans hn
      simpa using hle
  | breaks _ hread => cases hread.symm.trans hn
  | goes _ hread =>
      rw [hread] at hn
      obtain rfl := opened_of_statementLength h.paired_break hn
      rw [h.statementLength_break] at hn
      cases hn
      simp

/-- A statement that breaks off has delimiters above the line break that do not pair up. -/
theorem unpaired_of_error (h : Parted above br below)
    (herror : statementLength [] none 0 (above ++ br :: below) = .error cause) :
    ¬ Paired above := by
  intro hpaired
  rw [Paired] at hpaired
  cases gets_over [] none 0 above (br :: below) with
  | ends _ hread => cases hread.symm.trans herror
  | breaks hnone => cases hnone.symm.trans hpaired
  | goes hleft hread =>
      cases hleft.symm.trans hpaired
      rw [hread, h.statementLength_break] at herror
      cases herror

/-- What spans paired tokens stays above the line break if those above it are not paired. -/
theorem Parted.of_span {c : Cursor} (h : Parted above br below) (hunpaired : ¬ Paired above)
    (hspan : Span ⟨above ++ br :: below, 0⟩ c) :
    ∃ more, c.rest = more ++ br :: below ∧ c.pos + more.length = above.length := by
  obtain ⟨read, hrest, hpos, hread⟩ := hspan
  rw [Nat.zero_add] at hpos
  rcases List.append_eq_append_iff.1 hrest with ⟨front, rfl, hfront⟩ | ⟨more, rfl, hmore⟩
  · refine absurd ?_ hunpaired
    -- what is left open above the line break stays open in a front part of what is below it
    rw [Paired, openAfter_append] at hread
    obtain ⟨left, hleft, hclosed⟩ := Option.bind_eq_some_iff.1 hread
    have hbelow : Paired (front ++ c.rest) := hfront ▸ h.paired_break
    obtain ⟨inner, hinner⟩ := hbelow.opens left
    have hnil := Option.some.inj (hinner.symm.trans hclosed)
    rw [(List.append_eq_nil_iff.1 hnil).2] at hleft
    exact hleft
  · exact ⟨more, hmore, by rw [hpos, List.length_append]⟩

/-- Passing over a broken statement stays above the line break. -/
theorem passOver_le (h : Parted (t :: above) br below) (hunpaired : ¬ Paired (t :: above)) :
    (passOver cause t (above ++ br :: below) f).2 ≤ above.length + 1 := by
  have hline : 1 + ((above ++ br :: below).takeWhile fun u => u.kind != .newline).length ≤
      above.length + 1 := by
    rw [Nat.add_comm, List.takeWhile_append]
    split_ifs
    · simp [h.breaks]
    · exact Nat.add_le_add_right (List.takeWhile_sublist _).length_le 1
  rw [passOver]
  cases hread : registration ⟨t :: (above ++ br :: below), 0⟩ with
  | found header after =>
      dsimp only
      obtain ⟨more, hmore, hpos⟩ := h.of_span hunpaired (spans_registration _ _ _ hread)
      rw [List.length_cons] at hpos
      split_ifs with hbrace
      · obtain ⟨u, hu, hop⟩ : ∃ u, after.peek 0 = some u ∧ u.isOp "\x7b" = true := by
          simpa [Option.any_eq_true] using hbrace
        obtain ⟨gap, behind, hrest, hgap, hsignificant, hskip⟩ := exists_of_peek hu
        have hlt : gap.length < more.length := h.gap_lt hgap hsignificant
          (by simp only [Token.isOp, Bool.and_eq_true, beq_iff_eq] at hop; exact hop.1)
          (hmore.symm.trans hrest)
        rw [hskip]
        dsimp only
        omega
      · omega
  | absent => exact hline
  | stopped cause => exact hline

/-- Reading comes to the start of what is below the line break. -/
theorem readTokens_restarts {skip : Nat} (h : Parted above br below) (hskip : skip ≤ above.length)
    (hread : readTokens text skip comment f (above ++ br :: below) = .ok found) :
    ∃ comment' f', readTokens text 0 comment' f' below = .ok found := by
  induction above generalizing skip comment f with
  | nil =>
      obtain rfl := Nat.le_zero.1 hskip
      rw [List.nil_append, readTokens] at hread
      simp only [h.breaks, beq_self_eq_true, Bool.true_or, if_true] at hread
      exact ⟨comment, f, hread⟩
  | cons t above ih =>
      cases skip with
      | succ more => exact ih h.behind (Nat.le_of_succ_le_succ hskip) hread
      | zero =>
          rw [List.cons_append, readTokens] at hread
          dsimp only at hread
          split_ifs at hread
          · exact ih h.behind (Nat.zero_le _) hread
          · exact ih h.behind (Nat.zero_le _) hread
          · exact ih h.behind (Nat.zero_le _) hread
          · cases hlength : statementLength [] none 0 (t :: (above ++ br :: below)) with
            | ok n =>
                simp only [hlength] at hread
                have hle : n ≤ (t :: above).length := statementLength_le h hlength
                rw [List.length_cons] at hle
                split at hread
                · exact ih h.behind (by omega) hread
                · cases hread
            | error cause =>
                simp only [hlength] at hread
                have hle : (passOver cause t (above ++ br :: below) f).2 ≤ above.length + 1 :=
                  passOver_le h (unpaired_of_error h hlength)
                exact ih h.behind (by omega) hread

end BuildGraph.Script
