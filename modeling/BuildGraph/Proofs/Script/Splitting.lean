import BuildGraph.Proofs.Script.Spans

/-!
# Tokens are split exactly

A range of tokens is split into statements if and only if its delimiters are balanced. The
statements are then balanced too, nothing but separators stands between them, and the search for a
closing delimiter finds, inside of the statement, the one that balances the opening one. So no part
of a statement holds a group that cannot be read: `splitRange_spec`.
-/

namespace BuildGraph.Script

open Recognizer

variable {t u : Token} {ts rest front opened tokens part : List Token} {opener closer : String}

section Balance

/-- The tokens close the open delimiters one after another, and what stands before, between and
behind the closing ones is balanced. -/
inductive Unwinds : List Token → List Token → Prop
  | done {ts : List Token} : Balanced (ts.map Token.sign) → Unwinds [] ts
  | close {o u : Token} {opened inside after : List Token} {closer : String} :
      o.closer? = some closer → u.sign = .op closer → Balanced (inside.map Token.sign) →
      Unwinds opened after → Unwinds (o :: opened) (inside ++ u :: after)

/-- Balanced tokens may stand in front. -/
theorem Unwinds.behind (h : Unwinds opened ts) (hfront : Balanced (front.map Token.sign)) :
    Unwinds opened (front ++ ts) := by
  cases h with
  | done hts => exact .done (by simpa using hfront.append hts)
  | close hopens hcloses hinside hafter =>
      rw [← List.append_assoc]
      exact .close hopens hcloses (by simpa using hfront.append hinside) hafter

theorem isPlain_of_closes_nothing (hopens : ¬ t.closer?.isSome = true)
    (hcloses : ¬ t.isCloser = true) : t.sign.isPlain = true := by
  by_cases hkind : t.kind = .op
  · simp only [Token.closer?, Token.isCloser, hkind, closerOf?, beq_self_eq_true, if_true,
      Bool.true_and] at hopens hcloses
    split_ifs at hopens <;> simp_all [Sign.isPlain, Token.sign]
  · simp [Sign.isPlain, Token.sign, hkind]

theorem sign_of_closer? (h : t.closer? = some closer) :
    t.sign = .op t.value ∧ closerOf? t.value = some closer := by
  rw [Token.closer?] at h
  split_ifs at h with hkind
  exact ⟨Prod.ext (beq_iff_eq.1 hkind) rfl, h⟩

theorem sign_of_isCloser (h : t.isCloser = true) : t.sign = .op t.value := by
  rw [Token.isCloser, Bool.and_eq_true] at h
  exact Prod.ext (beq_iff_eq.1 h.1) rfl

/-- Tokens behind which nothing is open any more close what was open, one after another. -/
theorem unwinds_of_openAfter (h : openAfter opened ts = some []) : Unwinds opened ts := by
  induction ts generalizing opened with
  | nil =>
      cases h
      exact .done .nil
  | cons t ts ih =>
      rw [openAfter_cons] at h
      split_ifs at h with hopens hcloses
      · -- the group of the token stands in front of what unwinds the rest
        cases ih h with
        | @close _ u _ inside after closer hcloser hu hinside hafter =>
            obtain ⟨ht, hpair⟩ := sign_of_closer? hcloser
            have hgroup : Balanced ((t :: (inside ++ [u])).map Token.sign) := by
              simpa [ht, hu] using Balanced.group hpair hinside .nil
            simpa using hafter.behind hgroup
      · cases opened with
        | nil => cases h
        | cons o more =>
            dsimp only at h
            split_ifs at h with hfits
            exact @Unwinds.close _ _ _ [] _ _ hfits (sign_of_isCloser hcloses) .nil (ih h)
      · have hplain : Balanced ([t].map Token.sign) :=
          .plain (isPlain_of_closes_nothing hopens hcloses) .nil
        exact (ih h).behind hplain

theorem Balanced.paired {signs : List Sign} (h : Balanced signs)
    (htokens : tokens.map Token.sign = signs) : Paired tokens := by
  induction h generalizing tokens with
  | nil =>
      obtain rfl := List.map_eq_nil_iff.1 htokens
      exact paired_nil
  | plain hs _ ih =>
      obtain ⟨t, tail, rfl, ht, htail⟩ := List.map_eq_cons_iff.1 htokens
      have hplain : Paired [t] :=
        paired_of_plain (by simpa using closes_nothing_of_isPlain (ht ▸ hs))
      exact hplain.append (ih htail)
  | group hpair _ _ ihinner ihrest =>
      obtain ⟨t, inside, u, after, rfl, ht, hinside, hu, hafter⟩ := exists_group_tokens htokens
      have hopens : t.closer? = some _ := (closer?_of_sign ht).trans hpair
      obtain ⟨hnot, hcloses, hvalue⟩ := isCloser_of_sign hpair hu
      rw [Paired, openAfter_opener (by simp [hopens]), openAfter_append,
        (ihinner hinside).passes, Option.bind_some,
        openAfter_closer (by simp [hnot]) hcloses (hvalue ▸ hopens)]
      exact ihrest hafter

/-- The delimiters that are open behind the tokens decide whether the tokens are balanced. -/
theorem paired_iff_balanced : Paired ts ↔ Balanced (ts.map Token.sign) := by
  constructor
  · intro h
    cases unwinds_of_openAfter h with
    | done hbalanced => exact hbalanced
  · exact fun h => h.paired rfl

/-- An opening delimiter among balanced tokens has its closing one behind it, with balanced tokens
between the two. -/
theorem Balanced.closed {signs : List Sign} (h : Balanced signs)
    (htokens : tokens.map Token.sign = signs) {place : Nat} (ht : tokens[place]? = some t)
    (hopens : t.closer? = some closer) :
    ∃ inside u after, tokens.drop place = t :: (inside ++ u :: after) ∧
      Balanced (inside.map Token.sign) ∧ u.sign = .op closer := by
  induction h generalizing tokens place with
  | nil =>
      obtain rfl := List.map_eq_nil_iff.1 htokens
      cases ht
  | plain hs _ ih =>
      obtain ⟨v, tail, rfl, hv, htail⟩ := List.map_eq_cons_iff.1 htokens
      cases place with
      | zero =>
          obtain rfl := Option.some.inj ht
          cases hopens.symm.trans (closes_nothing_of_isPlain (hv ▸ hs)).1
      | succ place => exact ih htail ht
  | group hpair hinner _ ihinner ihrest =>
      obtain ⟨v, inner, w, tail, rfl, hv, hinside, hw, htail⟩ := exists_group_tokens htokens
      cases place with
      | zero =>
          obtain rfl := Option.some.inj ht
          have hcloser := (closer?_of_sign hv).trans hpair
          obtain rfl := Option.some.inj (hopens.symm.trans hcloser)
          exact ⟨inner, w, tail, rfl, hinside ▸ hinner, hw⟩
      | succ place =>
          rw [List.getElem?_cons_succ] at ht
          rw [List.drop_succ_cons]
          rcases Nat.lt_trichotomy place inner.length with hlt | rfl | hgt
          · rw [List.getElem?_append_left hlt] at ht
            obtain ⟨inside, u, after, hdrop, hbalanced, hu⟩ := ihinner hinside ht
            refine ⟨inside, u, after ++ w :: tail, ?_, hbalanced, hu⟩
            rw [List.drop_append_of_le_length hlt.le, hdrop]
            simp
          · -- the closing delimiter of the group is no opening one
            rw [List.getElem?_append_right le_rfl, Nat.sub_self] at ht
            obtain rfl := Option.some.inj ht
            cases hopens.symm.trans (isCloser_of_sign hpair hw).1
          · obtain ⟨n, rfl⟩ : ∃ n, place = inner.length + (n + 1) :=
              ⟨place - inner.length - 1, by omega⟩
            rw [List.getElem?_append_right (by omega), Nat.add_sub_cancel_left,
              List.getElem?_cons_succ] at ht
            rw [List.drop_length_add_append, List.drop_succ_cons]
            exact ihrest htail ht

end Balance

section Parts

/-- What a reading of some tokens looks at as a whole: the tokens themselves, what is inside of a
group in them, a statement of a block, and what is left of such a part without line breaks and
comments, behind a token that is no delimiter, between operators outside all groups, or inside of
the parentheses around it. -/
inductive Part (tokens : List Token) : List Token → Prop
  | whole : Part tokens tokens
  | group {part rest inner : List Token} {opener : String} {pos : Nat} {after : Cursor} :
      Part tokens part → rest <:+ part → (closerOf? opener).isSome = true →
      group opener ⟨rest, pos⟩ = .found inner after → Part tokens inner
  | statement {part piece : List Token} {pieces : List (List Token)} :
      Part tokens part → split part = .ok pieces → piece ∈ pieces → Part tokens piece
  | significant {part : List Token} :
      Part tokens part → Part tokens (part.filter Token.isSignificant)
  | behind {t : Token} {rest : List Token} : Part tokens (t :: rest) → t.sign.isPlain = true →
      Part tokens rest
  | operand {part piece : List Token} {operator : String} : Part tokens part →
      (Sign.op operator).isPlain = true → piece ∈ splitTopLevel operator part → Part tokens piece
  | stripped {part : List Token} : Part tokens part → Part tokens (stripParens part)

theorem plain_of_insignificant (h : ¬ t.isSignificant = true) :
    t.closer? = none ∧ t.isCloser = false := by
  refine plain_of_kind fun hkind => h ?_
  simp [Token.isSignificant, hkind]

/-- Line breaks and comments neither open nor close anything. -/
theorem openAfter_filter_isSignificant (opened ts : List Token) :
    openAfter opened (ts.filter Token.isSignificant) = openAfter opened ts := by
  induction ts generalizing opened with
  | nil => rfl
  | cons t ts ih =>
      by_cases ht : t.isSignificant = true
      · rw [List.filter_cons_of_pos ht, openAfter_cons, openAfter_cons]
        simp only [ih]
      · obtain ⟨hopens, hcloses⟩ := plain_of_insignificant ht
        rw [List.filter_cons_of_neg ht, openAfter_plain (by simp [hopens]) (by simp [hcloses]), ih]

theorem Paired.filter_isSignificant (h : Paired ts) : Paired (ts.filter Token.isSignificant) := by
  rwa [Paired, openAfter_filter_isSignificant]

/-- The depth of delimiters counts those that are open. -/
theorem length_openAfter_singleton {left : List Token} (h : openAfter opened [t] = some left) :
    (left.length : Int) = opened.length + t.depthChange := by
  rw [openAfter_cons] at h
  rw [Token.depthChange]
  split_ifs at h ⊢
  · cases h
    simp
  · cases opened with
    | nil => cases h
    | cons o more =>
        dsimp only at h
        split_ifs at h
        cases h
        simp
  · cases h
    simp

/-- Paired tokens are cut into paired pieces: where a cut is made, nothing is open. -/
theorem paired_of_mem_cutFrom {operator : String} (hoperator : (Sign.op operator).isPlain = true)
    {piece cut : List Token} (hpiece : openAfter [] piece.reverse = some opened)
    (hts : openAfter opened ts = some [])
    (hcut : cut ∈ cutFrom operator opened.length piece ts) : Paired cut := by
  induction ts generalizing opened piece with
  | nil =>
      obtain rfl := List.mem_singleton.1 hcut
      cases hts
      exact hpiece
  | cons t ts ih =>
      have hsplit : openAfter opened ([t] ++ ts) = some [] := hts
      rw [openAfter_append] at hsplit
      obtain ⟨left, hleft, hrest⟩ := Option.bind_eq_some_iff.1 hsplit
      have hdepth := length_openAfter_singleton hleft
      have hlonger : openAfter [] (t :: piece).reverse = some left := by
        rw [List.reverse_cons, openAfter_append, hpiece]
        exact hleft
      rw [cutFrom] at hcut
      dsimp only at hcut
      split_ifs at hcut with hsignificant hends
      · simp only [Bool.and_eq_true, decide_eq_true_eq] at hends
        obtain ⟨hopens, hcloses⟩ := plain_of_op hends.2 hoperator
        rw [openAfter_plain (by simp [hopens]) (by simp [hcloses])] at hleft
        obtain rfl := Option.some.inj hleft
        have hnone : opened = [] := by simpa [← hdepth] using hends.1
        subst hnone
        rcases List.mem_cons.1 hcut with rfl | hcut
        · exact hpiece
        · rw [← hdepth] at hcut
          exact ih (show openAfter [] ([] : List Token).reverse = some [] from rfl) hrest hcut
      · rw [← hdepth] at hcut
        exact ih hlonger hrest hcut
      · obtain ⟨hopens, hcloses⟩ := plain_of_insignificant hsignificant
        rw [openAfter_plain (by simp [hopens]) (by simp [hcloses])] at hleft
        obtain rfl := Option.some.inj hleft
        exact ih hpiece hrest hcut

theorem Paired.operand {operator : String} {piece : List Token} (h : Paired ts)
    (hoperator : (Sign.op operator).isPlain = true) (hpiece : piece ∈ splitTopLevel operator ts) :
    Paired piece :=
  paired_of_mem_cutFrom hoperator (show openAfter [] ([] : List Token).reverse = some [] from rfl)
    h hpiece

/-- What is inside of parentheses that enclose all of the tokens is paired. -/
theorem Paired.unwrap (h : Paired ts) (count : Nat) : Paired (unwrap count ts) := by
  induction count generalizing ts with
  | zero => exact h
  | succ count ih =>
      rw [Script.unwrap]
      split_ifs with hencloses
      · simp only [Bool.and_eq_true, decide_eq_true_eq, beq_iff_eq] at hencloses
        obtain ⟨⟨⟨-, hfirst⟩, -⟩, hclose⟩ := hencloses
        refine ih ?_
        cases ts with
        | nil => cases hclose
        | cons t ts =>
            have hopens : t.closer?.isSome = true := by
              simp only [List.head?_cons, Option.any_some, Token.isOp, Bool.and_eq_true,
                beq_iff_eq] at hfirst
              simp [Token.closer?, hfirst, closerOf?]
            rw [searchClose_cons, if_pos hopens] at hclose
            have hinside := (openAfter_of_searchClose [] (o := t) hclose).2
            rwa [List.length_cons, Nat.add_sub_cancel, ← List.dropLast_eq_take] at hinside
      · exact h

theorem Paired.stripParens (h : Paired ts) : Paired (stripParens ts) :=
  h.filter_isSignificant.unwrap _

end Parts

section Ranges

variable {ranges : List (Nat × Nat)} {place start stop : Nat}

/-- The tokens from one place up to another. -/
def stretch (tokens : List Token) (start stop : Nat) : List Token := (tokens.take stop).drop start

/-- The ranges cut tokens, the first of which has the given place, into balanced statements, and
leave out separators alone. -/
inductive Cuts : Nat → List Token → List (Nat × Nat) → Prop
  | nil (place : Nat) : Cuts place [] []
  | gap {place : Nat} {t : Token} {rest : List Token} {ranges : List (Nat × Nat)} :
      t.isSeparator = true → Cuts (place + 1) rest ranges → Cuts place (t :: rest) ranges
  | statement {place : Nat} {tokens rest : List Token} {ranges : List (Nat × Nat)} :
      tokens ≠ [] → Paired tokens → Cuts (place + tokens.length) rest ranges →
      Cuts place (tokens ++ rest) ((place, place + tokens.length) :: ranges)

/-- A statement ends among its tokens. -/
theorem statementLength_le_length {last : Option Token} {count n : Nat}
    (h : statementLength opened last count ts = .ok n) : n ≤ count + ts.length := by
  have hover := gets_over opened last count ts []
  rw [← List.append_nil ts] at h
  cases hover with
  | ends hle hread =>
      obtain rfl := Except.ok.inj (hread.symm.trans h)
      exact hle
  | breaks _ hread => cases hread.symm.trans h
  | @goes left _ hread =>
      rw [hread] at h
      cases left with
      | nil => exact (Except.ok.inj h).ge
      | cons o left => cases h

/-- The places of statements cut the tokens. -/
theorem cuts_of_splitFrom {skip : Nat} (h : splitFrom skip place ts = .ok ranges)
    (hskip : skip ≤ ts.length) : Cuts (place + skip) (ts.drop skip) ranges := by
  induction ts generalizing skip place ranges with
  | nil =>
      cases h
      rw [List.drop_nil]
      exact .nil _
  | cons t rest ih =>
      cases skip with
      | succ more =>
          have hrest : Cuts (place + 1 + more) (rest.drop more) ranges :=
            ih h (Nat.le_of_succ_le_succ hskip)
          rwa [Nat.add_assoc, Nat.add_comm 1] at hrest
      | zero =>
          rw [splitFrom] at h
          split_ifs at h with hseparator
          · exact .gap hseparator (ih h (Nat.zero_le _))
          · cases hlength : statementLength [] none 0 (t :: rest) with
            | error cause => simp [hlength] at h
            | ok n =>
                rw [hlength] at h
                obtain ⟨more, hmore, rfl⟩ : ∃ more,
                    splitFrom (n - 1) (place + 1) rest = .ok more ∧
                      ranges = (place, place + n) :: more := by
                  cases hmore : splitFrom (n - 1) (place + 1) rest with
                  | error cause => simp [hmore, Except.map] at h
                  | ok more => exact ⟨more, rfl, by simpa [hmore, Except.map] using h.symm⟩
                have hpos := lt_of_statementLength (by simpa using hseparator) hlength
                have hle := statementLength_le_length hlength
                rw [List.length_cons] at hle
                obtain ⟨k, rfl⟩ : ∃ k, n = k + 1 := ⟨n - 1, by omega⟩
                have hpaired : Paired ((t :: rest).take (k + 1)) :=
                  (openAfter_of_statementLength hlength).2
                have htake : ((t :: rest).take (k + 1)).length = k + 1 :=
                  List.length_take_of_le (by simpa using hle)
                have hrest : Cuts (place + (k + 1)) (rest.drop k) more := by
                  have hcuts := ih hmore (by omega)
                  rwa [Nat.add_sub_cancel, Nat.add_assoc, Nat.add_comm 1] at hcuts
                have hcuts := Cuts.statement (by simp) hpaired (htake.symm ▸ hrest)
                rw [htake] at hcuts
                simpa using hcuts

theorem Cuts.paired (h : Cuts place ts ranges) : Paired ts := by
  induction h with
  | nil => exact paired_nil
  | @gap _ t _ _ hseparator _ ih =>
      have hgap : Paired [t] := paired_of_plain (by simpa using plain_of_separator hseparator)
      exact hgap.append ih
  | statement _ hpaired _ ih => exact hpaired.append ih

/-- The ranges hold tokens, and lie among the tokens that are cut. -/
theorem Cuts.within (h : Cuts place ts ranges) :
    ∀ r ∈ ranges, place ≤ r.1 ∧ r.1 < r.2 ∧ r.2 ≤ place + ts.length := by
  induction h with
  | nil => simp
  | gap _ _ ih =>
      intro r hr
      have hwithin := ih r hr
      rw [List.length_cons]
      omega
  | @statement place tokens rest _ hne _ _ ih =>
      have hpos : 0 < tokens.length := List.length_pos_iff.2 hne
      rw [List.length_append, List.forall_mem_cons]
      refine ⟨⟨le_rfl, by omega, by omega⟩, fun r hr => ?_⟩
      have hwithin := ih r hr
      omega

theorem Cuts.increasing (h : Cuts place ts ranges) :
    ranges.Pairwise fun r s => r.2 ≤ s.1 := by
  induction h with
  | nil => exact .nil
  | gap _ _ ih => exact ih
  | statement _ _ hrest ih => exact .cons (fun r hr => (hrest.within r hr).1) ih

/-- What lies in no range is a separator. -/
theorem Cuts.outside (h : Cuts place ts ranges) {i : Nat} (ht : ts[i]? = some t)
    (hout : ∀ r ∈ ranges, ¬ (r.1 ≤ place + i ∧ place + i < r.2)) : t.isSeparator = true := by
  induction h generalizing i with
  | nil => cases ht
  | @gap place _ _ _ hseparator _ ih =>
      cases i with
      | zero =>
          obtain rfl := Option.some.inj ht
          exact hseparator
      | succ i =>
          refine ih ht ?_
          rwa [Nat.add_assoc, Nat.add_comm 1]
  | @statement place tokens rest ranges _ _ _ ih =>
      rw [List.forall_mem_cons] at hout
      obtain ⟨n, rfl⟩ : ∃ n, i = tokens.length + n := ⟨i - tokens.length, by omega⟩
      rw [List.getElem?_append_right (by omega), Nat.add_sub_cancel_left] at ht
      exact ih ht (by simpa only [Nat.add_assoc] using hout.2)

/-- Each range holds paired tokens. -/
theorem Cuts.paired_stretch (h : Cuts place ts ranges) (before : List Token)
    (hbefore : before.length = place) : ∀ r ∈ ranges, Paired (stretch (before ++ ts) r.1 r.2) := by
  induction h generalizing before with
  | nil => simp
  | @gap _ t _ _ _ _ ih => simpa using ih (before ++ [t]) (by simp [hbefore])
  | @statement place tokens rest _ _ hpaired _ ih =>
      rw [List.forall_mem_cons]
      refine ⟨?_, by simpa using ih (before ++ tokens) (by simp [hbefore])⟩
      subst hbefore
      simpa [stretch, List.take_append] using hpaired

/-- The delimiter at one place is closed by the one at another: they fit, and the tokens between
them are balanced. -/
def ClosedAt (tokens : List Token) (place close : Nat) : Prop :=
  place < close ∧ Balanced ((stretch tokens (place + 1) close).map Token.sign) ∧
    ∃ t u closer, tokens[place]? = some t ∧ t.closer? = some closer ∧ tokens[close]? = some u ∧
      u.sign = .op closer

/-- A part of a statement can be read: it is split into statements, and wherever a group starts in
it the closing delimiter is found. -/
def GroupsReadable (part : List Token) : Prop :=
  (∃ pieces, split part = .ok pieces) ∧
    ∀ rest, rest <:+ part → ∀ opener, (closerOf? opener).isSome = true →
      ∀ pos cause, group opener ⟨rest, pos⟩ ≠ .stopped cause

/-- The ranges are those of the statements among the tokens from one place up to another. -/
structure SplitsInto (tokens : List Token) (start stop : Nat) (ranges : List (Nat × Nat)) :
    Prop where
  within : ∀ r ∈ ranges, start ≤ r.1 ∧ r.1 < r.2 ∧ r.2 ≤ stop
  increasing : ranges.Pairwise fun r s => r.2 ≤ s.1
  outside : ∀ place t, start ≤ place → place < stop → tokens[place]? = some t →
    (∀ r ∈ ranges, ¬ (r.1 ≤ place ∧ place < r.2)) →
      t.kind = .newline ∨ t.kind = .comment ∨ t.isOp ";" = true
  balanced : ∀ r ∈ ranges, Balanced ((stretch tokens r.1 r.2).map Token.sign)
  closed : ∀ r ∈ ranges, ∀ place t, r.1 ≤ place → place < r.2 → tokens[place]? = some t →
    t.closer?.isSome = true →
      ∃ close, matchingClose tokens place r.2 = .ok close ∧ close < r.2 ∧
        ClosedAt tokens place close
  readable : ∀ r ∈ ranges, ∀ part, Part (stretch tokens r.1 r.2) part → GroupsReadable part

theorem getElem?_stretch (tokens : List Token) {place : Nat} (hstart : start ≤ place)
    (hstop : place < stop) : (stretch tokens start stop)[place - start]? = tokens[place]? := by
  rw [stretch, List.getElem?_drop, Nat.add_sub_cancel' hstart, List.getElem?_take_of_lt hstop]

/-- A range of tokens is split as the tokens that it holds. -/
theorem splitRange_eq (hstop : stop ≤ tokens.length) :
    splitRange tokens start stop = splitFrom 0 start (stretch tokens start stop) := by
  rw [splitRange, stretch]
  split
  · next h => exact h.symm
  · next h => exact h.symm
  · rw [if_neg (by simp [hstop.not_gt])]

/-- The closing delimiter is found among paired tokens. -/
theorem Paired.matchingClose {place : Nat} (h : Paired (stretch tokens start stop))
    (hstart : start ≤ place) (hplace : place < stop) (ht : tokens[place]? = some t)
    (hopens : t.closer? = some closer) :
    ∃ close, matchingClose tokens place stop = .ok close ∧ close < stop ∧
      ClosedAt tokens place close := by
  obtain ⟨inside, u, after, hdrop, hinside, hu⟩ :=
    (paired_iff_balanced.1 h).closed rfl ((getElem?_stretch tokens hstart hplace).trans ht) hopens
  have hdrop' : (tokens.take stop).drop place = t :: (inside ++ u :: after) := by
    rwa [stretch, List.drop_drop, Nat.add_sub_cancel' hstart] at hdrop
  obtain ⟨hsign, hpair⟩ := sign_of_closer? hopens
  have hlength : (tokens.take stop).length - place = inside.length + after.length + 2 := by
    rw [← List.length_drop, hdrop']
    simp only [List.length_cons, List.length_append]
    omega
  have hclose : place + 1 + inside.length < stop := by
    rw [List.length_take] at hlength
    omega
  have hafter : tokens[place + 1 + inside.length]? = some u := by
    rw [← List.getElem?_take_of_lt hclose, Nat.add_assoc, ← List.getElem?_drop, hdrop',
      Nat.add_comm 1, List.getElem?_cons_succ, List.getElem?_append_right le_rfl, Nat.sub_self]
    rfl
  refine ⟨place + 1 + inside.length, ?_, hclose, by omega, ?_, t, u, closer, ht, hopens, hafter, hu⟩
  · rw [Script.matchingClose, hdrop', searchClose_group hpair hinside hsign rfl hu]
  · have hbetween : stretch tokens (place + 1) (place + 1 + inside.length) = inside := by
      have htake : (tokens.take stop).take (place + 1 + inside.length) =
          tokens.take (place + 1 + inside.length) := by
        rw [List.take_take, Nat.min_eq_left hclose.le]
      rw [stretch, ← htake, List.drop_take, ← List.drop_drop, hdrop', List.drop_one, List.tail_cons,
        Nat.add_sub_cancel_left, List.take_left]
    rwa [hbetween]

theorem paired_of_split {pieces : List (List Token)} {piece : List Token}
    (h : split ts = .ok pieces) (hpiece : piece ∈ pieces) : Paired piece := by
  rw [split] at h
  cases hranges : splitFrom 0 0 ts with
  | error cause => simp [hranges, Except.map] at h
  | ok ranges =>
      simp only [hranges, Except.map, Except.ok.injEq] at h
      subst h
      obtain ⟨r, hr, rfl⟩ := List.mem_map.1 hpiece
      exact (cuts_of_splitFrom hranges (Nat.zero_le _)).paired_stretch [] rfl r hr

theorem Part.paired (h : Part tokens part) (htokens : Paired tokens) : Paired part := by
  induction h with
  | whole => exact htokens
  | group _ _ hopener hread _ => exact (group_span hopener hread).2
  | statement _ hsplit hpiece _ => exact paired_of_split hsplit hpiece
  | significant _ ih => exact ih.filter_isSignificant
  | @behind t rest _ hplain ih =>
      have hfirst : Paired [t] := paired_of_plain (by simpa using closes_nothing_of_isPlain hplain)
      exact (show Paired ([t] ++ rest) from ih).behind hfirst
  | operand _ hoperator hpiece ih => exact ih.operand hoperator hpiece
  | stripped _ ih => exact ih.stripParens

theorem Paired.readable (h : Paired part) : GroupsReadable part := by
  refine ⟨h.split, fun rest hrest opener hopener pos cause hstop => ?_⟩
  have hcloses : Closes rest := by
    obtain ⟨front, rfl⟩ := hrest
    have hall : Closes (front ++ rest) := ⟨[], h⟩
    simpa using enclosed_closes.drop hall front.length
  have hadmits := enclosed_closes.group opener hopener ⟨rest, pos⟩ hcloses
  rw [hstop] at hadmits
  exact hadmits

theorem splits_of_cuts (h : Cuts start (stretch tokens start stop) ranges) (hle : start ≤ stop)
    (hstop : stop ≤ tokens.length) : SplitsInto tokens start stop ranges := by
  have hlength : (stretch tokens start stop).length = stop - start := by
    rw [stretch, List.length_drop, List.length_take_of_le hstop]
  have hwithin : ∀ r ∈ ranges, start ≤ r.1 ∧ r.1 < r.2 ∧ r.2 ≤ stop := fun r hr => by
    have := h.within r hr
    omega
  have hpaired : ∀ r ∈ ranges, Paired (stretch tokens r.1 r.2) := fun r hr => by
    have hbefore := h.paired_stretch (tokens.take start)
      (List.length_take_of_le (hle.trans hstop)) r hr
    have hall : tokens.take start ++ stretch tokens start stop = tokens.take stop := by
      rw [stretch, List.drop_take]
      exact List.take_add ▸ by rw [Nat.add_sub_cancel' hle]
    rwa [hall, stretch, List.take_take, Nat.min_eq_left (hwithin r hr).2.2] at hbefore
  exact {
    within := hwithin
    increasing := h.increasing
    outside := fun place t hstart hplace ht hout => by
      have hseparator := h.outside ((getElem?_stretch tokens hstart hplace).trans ht)
        (by simpa [Nat.add_sub_cancel' hstart] using hout)
      simpa [Token.isSeparator, or_assoc] using hseparator
    balanced := fun r hr => paired_iff_balanced.1 (hpaired r hr)
    closed := fun r hr place t hstart hplace ht hopens => by
      obtain ⟨closer, hcloser⟩ := Option.isSome_iff_exists.1 hopens
      exact (hpaired r hr).matchingClose hstart hplace ht hcloser
    readable := fun r hr part hpart => (hpart.paired (hpaired r hr)).readable }

/-- A range of tokens is split if and only if its delimiters are balanced, and then it is split into
its statements. -/
theorem splitRange_spec (hle : start ≤ stop) (hstop : stop ≤ tokens.length) :
    ((∃ ranges, splitRange tokens start stop = .ok ranges) ↔
      Balanced ((stretch tokens start stop).map Token.sign)) ∧
    ∀ ranges, splitRange tokens start stop = .ok ranges → SplitsInto tokens start stop ranges := by
  rw [splitRange_eq hstop]
  have hcuts : ∀ ranges, splitFrom 0 start (stretch tokens start stop) = .ok ranges →
      Cuts start (stretch tokens start stop) ranges :=
    fun ranges h => cuts_of_splitFrom h (Nat.zero_le _)
  refine ⟨⟨?_, fun h => ?_⟩, fun ranges h => splits_of_cuts (hcuts ranges h) hle hstop⟩
  · rintro ⟨ranges, h⟩
    exact paired_iff_balanced.1 (hcuts ranges h).paired
  · exact @splitFrom_of_paired _ 0 (paired_iff_balanced.2 h) start

/-- A block with a call, a semicolon, and a statement that goes on over a line break. -/
def twoStatements : List Token := (scan "t \x7b f(a); g\n.h \x7d").tokens

/-- What is inside of the block are two statements. Up to the argument of the call the tokens are
not balanced. -/
theorem splitRange_spec_block :
    11 ≤ twoStatements.length ∧ splitRange twoStatements 2 11 = .ok [(2, 6), (7, 11)] ∧
      SplitsInto twoStatements 2 11 [(2, 6), (7, 11)] ∧
      ¬ Balanced ((stretch twoStatements 2 5).map Token.sign) := by
  have hlength : 11 ≤ twoStatements.length := by decide +kernel
  have hsplit : splitRange twoStatements 2 11 = .ok [(2, 6), (7, 11)] := by decide +kernel
  have hrefused : splitRange twoStatements 2 5 = .error (.unclosed "(" none) := by decide +kernel
  refine ⟨hlength, hsplit, (splitRange_spec (by omega) hlength).2 _ hsplit, fun hbalanced => ?_⟩
  obtain ⟨ranges, hranges⟩ :=
    (@splitRange_spec twoStatements 2 5 (by omega) (by omega)).1.2 hbalanced
  cases hrefused.symm.trans hranges

end Ranges

end BuildGraph.Script
