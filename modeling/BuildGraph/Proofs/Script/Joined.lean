import BuildGraph.Proofs.Script.Scan
import BuildGraph.Proofs.Text.Trim

/-!
# Scanning a text that goes on

A text without lexical faults is scanned to the same tokens when lines follow it: what was closed
stays closed, and nothing runs together over a line break. What follows is scanned to the signs that
it is scanned to by itself. `scan_joined` puts the two together.
-/

namespace BuildGraph.Script

open BuildGraph.Text BuildGraph.Number

variable {c quote : Char} {cs rest : List Char}

section Runs

/-- A run of characters ends at a line break that is none of them. -/
theorem takeWhile_append_newline {p : Char → Bool} (hp : p '\n' = false) (cs more : List Char) :
    (cs ++ '\n' :: more).takeWhile p = cs.takeWhile p := by
  induction cs with
  | nil => simp [hp]
  | cons c cs ih => rw [List.cons_append, List.takeWhile_cons, List.takeWhile_cons, ih]

/-- The next character is a given one, or not, whatever follows on the next line. -/
theorem head?_append_newline {x : Char} (hx : x ≠ '\n') (cs more : List Char) :
    ((cs ++ '\n' :: more).head? == some x) = (cs.head? == some x) := by
  cases cs with
  | nil => simp [hx.symm]
  | cons c cs => rfl

theorem numberTail_append_newline (cs more : List Char) :
    numberTail (cs ++ '\n' :: more) = numberTail cs := by
  have hbreak : isWordChar '\n' = false := by simp [isWordChar_ascii, isIdentifierChar]
  have hdigit : isDigit '\n' = false := by simp [isDigit_ascii]
  fun_induction numberTail cs with
  | case1 => rw [List.nil_append, numberTail.eq_4 _ _ (by decide), hbreak, if_neg (by simp)]
  | case2 d rest hd ih =>
      rw [List.cons_append, List.cons_append, numberTail, if_pos hd, ← List.cons_append, ih]
  | case3 d rest hd => rw [List.cons_append, List.cons_append, numberTail, if_neg hd]
  | case4 =>
      rw [List.cons_append, List.nil_append, numberTail, hdigit]
      rfl
  | case5 c rest hpoint hc ih => rw [List.cons_append, numberTail.eq_4 _ _ hpoint, if_pos hc, ih]
  | case6 c rest hpoint hc => rw [List.cons_append, numberTail.eq_4 _ _ hpoint, if_neg hc]

theorem length_numberTail_le (cs : List Char) : (numberTail cs).length ≤ cs.length := by
  fun_induction numberTail cs <;> simp_all

/-- The same operator fits, whatever follows on the next line. -/
theorem isPrefixOf_append_newline {op : List Char} (hop : '\n' ∉ op) (cs more : List Char) :
    op.isPrefixOf (cs ++ '\n' :: more) = op.isPrefixOf cs := by
  induction op generalizing cs with
  | nil => simp
  | cons x op ih =>
      rw [List.mem_cons, not_or] at hop
      cases cs with
      | nil => simp [List.isPrefixOf, Ne.symm hop.1]
      | cons c cs => simp [List.isPrefixOf, ih hop.2]

end Runs

section Comments

/-- What is closed does not end with the text, so the next character is that of the text. -/
theorem not_cons_append {x : Char} {more tail : List Char} (hne : rest ≠ [])
    (h : ∀ tail, rest = x :: tail → False) : rest ++ more ≠ x :: tail := by
  cases rest with
  | nil => exact absurd rfl hne
  | cons y rest =>
      intro heq
      obtain ⟨rfl, -⟩ := List.cons.inj heq
      exact h rest rfl

/-- A block comment that is closed ends where it does, whatever follows. -/
theorem commentLength_of_closed {depth : Nat} (h : (commentLength depth cs).2 = true)
    (more : List Char) : commentLength depth (cs ++ more) = commentLength depth cs ∧
      (commentLength depth cs).1 ≤ cs.length := by
  fun_induction commentLength depth cs with
  | case1 => cases h
  | case2 depth rest n closed hread ih =>
      rw [hread] at ih
      obtain ⟨heq, hle⟩ := ih h
      simp only [List.cons_append, commentLength, heq, List.length_cons]
      exact ⟨trivial, by omega⟩
  | case3 depth rest hdepth => simp [commentLength, hdepth]
  | case4 depth rest hdepth n closed hread ih =>
      rw [hread] at ih
      obtain ⟨heq, hle⟩ := ih h
      simp only [List.cons_append, commentLength, if_neg hdepth, heq, List.length_cons]
      exact ⟨trivial, by omega⟩
  | case5 depth c rest hopens hends n closed hread ih =>
      rw [hread] at ih
      obtain ⟨heq, hle⟩ := ih h
      have hne : rest ≠ [] := by
        rintro rfl
        cases hread
        cases h
      have hstep := commentLength.eq_4 depth c (rest ++ more)
        (fun tail hc => not_cons_append hne fun tail => hopens tail hc)
        (fun tail hc => not_cons_append hne fun tail => hends tail hc)
      rw [List.cons_append, hstep, heq]
      exact ⟨rfl, by simpa using hle⟩

theorem blockComment_append (h : (blockComment cs).fault = none) (more : List Char) :
    blockComment (cs ++ more) = blockComment cs ∧ (blockComment cs).length ≤ cs.length := by
  have hclosed : (commentLength 0 cs).2 = true := by
    rw [blockComment] at h
    split at h
    next n closed hread =>
      rw [hread]
      cases closed with
      | true => rfl
      | false => cases h
  obtain ⟨heq, hle⟩ := commentLength_of_closed hclosed more
  simp only [blockComment, heq, List.take_append_of_le_length hle]
  exact ⟨trivial, hle⟩

end Comments

section RawStrings

/-- A raw string that is closed ends where it does, whatever follows on the next line. -/
theorem rawBody_of_closed (h : (rawBody cs).2 = true) (more : List Char) :
    rawBody (cs ++ '\n' :: more) = rawBody cs ∧ (rawBody cs).1.length + 3 ≤ cs.length := by
  fun_induction rawBody cs with
  | case1 => cases h
  | case2 rest =>
      simp only [List.cons_append, rawBody, List.length_cons]
      exact ⟨by rw [takeWhile_append_newline (by decide)],
        Nat.add_le_add_right (List.takeWhile_sublist _).length_le 3⟩
  | case3 c rest hopens body closed hread ih =>
      rw [hread] at ih
      obtain ⟨heq, hle⟩ := ih h
      have hopens' : ∀ tail, c = '"' → rest ++ '\n' :: more = '"' :: '"' :: tail → False := by
        intro tail hc htail
        cases rest with
        | nil => simp at htail
        | cons x rest =>
            cases rest with
            | nil => simp at htail
            | cons y rest =>
                simp only [List.cons_append, List.cons.injEq] at htail
                exact hopens rest hc (by rw [htail.1, htail.2.1])
      rw [List.cons_append, rawBody.eq_3 c _ hopens', heq]
      exact ⟨rfl, by simpa [Nat.add_right_comm] using hle⟩

theorem rawString_append (h : (rawString cs).fault = none) (more : List Char) :
    rawString (cs ++ '\n' :: more) = rawString cs ∧ (rawString cs).length ≤ cs.length + 3 := by
  have hclosed : (rawBody cs).2 = true := by
    rw [rawString] at h
    split at h
    next body closed hread =>
      rw [hread]
      cases closed with
      | true => rfl
      | false => cases h
  obtain ⟨heq, hle⟩ := rawBody_of_closed hclosed more
  simp only [rawString, heq, hclosed, if_true]
  exact ⟨trivial, by omega⟩

end RawStrings

section Literals

/-- A character that is no blank is not trimmed away. -/
theorem mem_dropEnd {p : Char → Bool} (hc : p c = false) (h : c ∈ cs) : c ∈ dropEnd p cs := by
  induction cs with
  | nil => cases h
  | cons x cs ih =>
      rw [drop_end_cons]
      rcases List.mem_cons.1 h with rfl | h
      · simp [hc]
      · have hmem := ih h
        rw [if_neg (by simp [List.ne_nil_of_mem hmem])]
        exact List.mem_cons_of_mem _ hmem

theorem mem_dropStart {p : Char → Bool} (hc : p c = false) (h : c ∈ cs) : c ∈ dropStart p cs := by
  rw [dropStart]
  induction cs with
  | nil => cases h
  | cons x cs ih =>
      rw [List.dropWhile_cons]
      split
      · next hx =>
          rcases List.mem_cons.1 h with rfl | h
          · simp [hc] at hx
          · exact ih h
      · exact h

/-- The mark of a character or string literal. -/
def IsQuote (quote : Char) : Prop := quote = '"' ∨ quote = '\''

/-- Digits are read up to a quote at most. -/
theorem takeDigits_of_mem (hquote : IsQuote quote) (h : quote ∈ cs) (gap : Bool)
    (read digits : List Nat) : takeDigits 16 gap read cs ≠ some (digits, []) := by
  have hdigit : digitIn? 16 quote = none ∧ quote ≠ '_' := by
    rcases hquote with rfl | rfl <;> decide
  induction cs generalizing gap read with
  | nil => cases h
  | cons x cs ih =>
      have hmore : x ≠ quote → quote ∈ cs := fun hne => (List.mem_cons.1 h).resolve_left hne.symm
      rw [takeDigits]
      split
      · next hline =>
          have hcs := hmore (by rintro rfl; exact hdigit.2 hline)
          split
          · simp
          · exact ih hcs _ _
      · split
        · next d hd =>
            exact ih (hmore (by rintro rfl; simp [hdigit.1] at hd)) _ _
        · split <;> simp

/-- No character has a number with a quote among its digits. -/
theorem numberedChar?_of_mem {w x y z : Char} (hquote : IsQuote quote)
    (h : quote ∈ [w, x, y, z]) : numberedChar? w x y z = none := by
  have hblank : isNumberBlank quote = false ∧ plainDigit quote = quote ∧ quote ≠ '-' ∧
      quote ≠ '+' ∧ quote ≠ '0' ∧ quote ≠ 'x' ∧ quote ≠ 'X' ∧ quote ≠ '_' := by
    rcases hquote with rfl | rfl <;> decide +kernel
  obtain ⟨hblank, hplain, hminus, hplus, hzero, hsmall, hlarge, hline⟩ := hblank
  have hchars : quote ∈ numberChars (String.ofList [w, x, y, z]) := by
    rw [numberChars, String.toList_ofList]
    exact List.mem_map.2 ⟨quote, mem_dropEnd hblank (mem_dropStart hblank h), hplain⟩
  have hsign : ∀ cs : List Char, quote ∈ cs → quote ∈ (takeSign cs).2 := by
    intro cs hcs
    rw [takeSign.eq_def]
    split <;> simp_all
  have hmark : ∀ cs : List Char, quote ∈ cs → quote ∈ takeHexMark cs := by
    intro cs hcs
    rw [takeHexMark.eq_def]
    split
    · split
      · next hx =>
          rw [Bool.or_eq_true, decide_eq_true_iff, decide_eq_true_iff] at hx
          rcases hx with rfl | rfl <;> split <;> simp_all
      · exact hcs
    · exact hcs
  have hnone := takeDigits_of_mem hquote (hmark _ (hsign _ hchars)) true []
  have hread : readHexadecimal? (String.ofList [w, x, y, z]) = none := by
    rw [readHexadecimal?]
    dsimp only
    split
    · next digits hdigits => exact absurd hdigits (hnone digits)
    · rfl
  rw [numberedChar?, hread]

/-- A backslash and a `u` before no number of a character stand for the letter. -/
theorem body_unnumbered (quote : Char) (rest : List Char)
    (h : ∀ w x y z tail, rest = w :: x :: y :: z :: tail → numberedChar? w x y z = none) :
    bodyOf quote ('\\' :: 'u' :: rest) = (bodyOf quote rest).push 'u' 2 := by
  by_cases hlong : ∃ w x y z tail, rest = w :: x :: y :: z :: tail
  · obtain ⟨w, x, y, z, tail, rfl⟩ := hlong
    rw [bodyOf.eq_2, h w x y z tail rfl]
  · exact bodyOf.eq_3 quote 'u' rest fun w x y z tail _ heq => hlong ⟨w, x, y, z, tail, heq⟩

theorem mem_of_closed (h : (bodyOf quote cs).closed = true) : quote ∈ cs := by
  fun_induction bodyOf quote cs with
  | case1 => cases h
  | case2 w x y z rest _ _ ih => simp [ih h]
  | case3 w x y z rest _ ih => exact List.mem_cons_of_mem _ (List.mem_cons_of_mem _ (ih h))
  | case4 c rest _ ih => exact List.mem_cons_of_mem _ (List.mem_cons_of_mem _ (ih h))
  | case5 => exact List.mem_cons_self
  | case6 => cases h
  | case7 c rest _ _ _ _ more _ ih => exact List.mem_cons_of_mem _ (ih h)

/-- A literal that is closed ends where it does, whatever follows on the next line. -/
theorem bodyOf_of_closed (hquote : IsQuote quote) (h : (bodyOf quote cs).closed = true)
    (more : List Char) : bodyOf quote (cs ++ '\n' :: more) = bodyOf quote cs ∧
      (bodyOf quote cs).length ≤ cs.length := by
  have hslash : quote ≠ '\\' := by
    rcases hquote with rfl | rfl <;> decide
  fun_induction bodyOf quote cs with
  | case1 => cases h
  | case2 w x y z rest number hnumber ih =>
      obtain ⟨heq, hle⟩ := ih h
      simp only [List.cons_append, bodyOf.eq_2, hnumber, heq, LiteralBody.push, List.length_cons]
      exact ⟨trivial, by omega⟩
  | case3 w x y z rest hnumber ih =>
      obtain ⟨heq, hle⟩ := ih h
      rw [List.cons_append, List.cons_append, List.cons_append, List.cons_append] at heq
      simp only [List.cons_append, bodyOf.eq_2, hnumber, heq, LiteralBody.push, List.length_cons]
      refine ⟨trivial, ?_⟩
      simp only [List.length_cons] at hle
      omega
  | case4 c rest hshort ih =>
      obtain ⟨heq, hle⟩ := ih h
      have hmem : quote ∈ rest := mem_of_closed h
      have hstep : bodyOf quote ('\\' :: c :: (rest ++ '\n' :: more)) =
          (bodyOf quote (rest ++ '\n' :: more)).push (unescapeChar c) 2 := by
        by_cases hu : c = 'u'
        · subst hu
          refine body_unnumbered quote _ fun w x y z tail htail => numberedChar?_of_mem hquote ?_
          -- the literal ends before four characters are read, so its quote is one of them
          have hfour : rest.length < 4 := by
            rcases rest with _ | ⟨w, _ | ⟨x, _ | ⟨y, _ | ⟨z, rest⟩⟩⟩⟩
            case cons.cons.cons.cons => exact (hshort w x y z rest rfl rfl).elim
            all_goals simp
          have htake : [w, x, y, z] = rest ++ ('\n' :: more).take (4 - rest.length) := by
            have hcut := congrArg (List.take 4) htail
            rw [List.take_append, List.take_of_length_le hfour.le] at hcut
            simpa using hcut.symm
          rw [htake]
          exact List.mem_append_left _ hmem
        · exact bodyOf.eq_3 quote c _ fun _ _ _ _ _ hc => absurd hc hu
      simp only [List.cons_append, hstep, heq, LiteralBody.push, List.length_cons]
      exact ⟨trivial, by omega⟩
  | case5 rest _ _ =>
      rw [List.cons_append, bodyOf.eq_4 quote quote _ (fun _ _ _ _ _ hc => absurd hc hslash)
        (fun _ _ hc => absurd hc hslash), if_pos rfl]
      simp
  | case6 => cases h
  | case7 c rest hnumbered hescaped hquoted hbreak body _ ih =>
      obtain ⟨heq, hle⟩ := ih h
      have hne : rest ≠ [] := List.ne_nil_of_mem (mem_of_closed h)
      have hc : c ≠ '\\' := by
        obtain ⟨x, tail, rfl⟩ := List.exists_cons_of_ne_nil hne
        exact fun hc => hescaped x tail hc rfl
      have hstarts : startsTemplate (rest ++ '\n' :: more) = startsTemplate rest := by
        obtain ⟨x, tail, rfl⟩ := List.exists_cons_of_ne_nil hne
        rfl
      rw [List.cons_append, bodyOf.eq_4 quote c _ (fun _ _ _ _ _ h => absurd h hc)
        (fun _ _ h => absurd h hc), if_neg hquoted, if_neg hbreak, heq, hstarts]
      exact ⟨rfl, Nat.add_le_add_right hle 1⟩

theorem quotedString_append (hquote : IsQuote quote) (h : (quotedString quote cs).fault = none)
    (more : List Char) : quotedString quote (cs ++ '\n' :: more) = quotedString quote cs ∧
      (quotedString quote cs).length ≤ cs.length + 1 := by
  have hclosed : (bodyOf quote cs).closed = true := by
    rw [quotedString] at h
    cases hbody : (bodyOf quote cs).closed with
    | true => rfl
    | false => simp [hbody] at h
  obtain ⟨heq, hle⟩ := bodyOf_of_closed hquote hclosed more
  rw [quotedString, quotedString, heq]
  exact ⟨rfl, by simpa only [Nat.add_comm] using Nat.add_le_add_right hle 1⟩

theorem tickedIdentifier_append (h : (tickedIdentifier cs).fault = none) (more : List Char) :
    tickedIdentifier (cs ++ '\n' :: more) = tickedIdentifier cs ∧
      (tickedIdentifier cs).length ≤ cs.length + 1 := by
  have htake : (cs ++ '\n' :: more).takeWhile (fun c => c != '\x60' && c != '\n') =
      cs.takeWhile fun c => c != '\x60' && c != '\n' := takeWhile_append_newline (by decide) cs more
  rw [tickedIdentifier] at h
  split_ifs at h with htick
  have hle : (cs.takeWhile fun c => c != '\x60' && c != '\n').length ≤ cs.length :=
    (List.takeWhile_sublist _).length_le
  have hdrop : cs.drop (cs.takeWhile fun c => c != '\x60' && c != '\n').length ≠ [] := by
    intro hnil
    rw [hnil] at htick
    cases htick
  have hlt := List.length_lt_of_drop_ne_nil hdrop
  have htick' : ((cs ++ '\n' :: more).drop
      (cs.takeWhile fun c => c != '\x60' && c != '\n').length).head? = some '\x60' := by
    rw [List.drop_append_of_le_length hle, List.head?_append_of_ne_nil _ hdrop, htick]
  simp only [tickedIdentifier, htake, htick, htick', if_true]
  exact ⟨trivial, by omega⟩

end Literals

section Lexemes

/-- Without a fault the same is found later, and it takes no more characters than there are. -/
def Keeps (count : Nat) (found later : Lexeme) : Prop :=
  found.fault = none → later = found ∧ found.length ≤ count

theorem Keeps.ite {p : Prop} [Decidable p] {count : Nat} {a b a' b' : Lexeme}
    (h : p → Keeps count a a') (h' : ¬ p → Keeps count b b') :
    Keeps count (if p then a else b) (if p then a' else b') := by
  split
  · next hp => exact h hp
  · next hp => exact h' hp

/-- What stands at a place without a fault stands there whatever follows on the next line, and
takes no more than the text. -/
theorem lexeme_append (c : Char) (cs more : List Char) :
    Keeps (cs.length + 1) (lexeme c cs) (lexeme c (cs ++ '\n' :: more)) := by
  have htake : ((cs ++ '\n' :: more).take 2 == ['"', '"']) = (cs.take 2 == ['"', '"']) := by
    rcases cs with _ | ⟨x, _ | ⟨y, cs⟩⟩
    · cases more <;> simp
    · simp
    · rfl
  have hfind : (operators.find? fun op => op.isPrefixOf (c :: (cs ++ '\n' :: more))) =
      operators.find? fun op => op.isPrefixOf (c :: cs) := by
    have hbreak : ∀ op ∈ operators, '\n' ∉ op := by simp [operators_eq]
    refine List.find?_congr fun op hop => ?_
    rw [← List.cons_append, isPrefixOf_append_newline (hbreak op hop)]
  have hword : (cs ++ '\n' :: more).takeWhile isWordChar = cs.takeWhile isWordChar :=
    takeWhile_append_newline (by simp [isWordChar_ascii, isIdentifierChar]) cs more
  have hrun : ∀ {p : Char → Bool}, (cs.takeWhile p).length ≤ cs.length :=
    (List.takeWhile_sublist _).length_le
  rw [lexeme, lexeme, head?_append_newline (by decide), head?_append_newline (by decide), htake,
    hfind, hword, numberTail_append_newline]
  refine .ite (fun _ _ => ⟨rfl, by simp⟩) fun _ => .ite (fun _ _ => ⟨rfl, by simp⟩) fun _ =>
    .ite (fun hslash _ => ?_) fun _ => .ite (fun _ h => ?_) fun _ => .ite (fun hraw h => ?_)
    fun _ => .ite (fun hquote h => quotedString_append (by simpa [IsQuote] using hquote) h more)
    fun _ => .ite (fun _ _ => ⟨rfl, ?_⟩) fun _ => .ite (fun _ h => tickedIdentifier_append h more)
    fun _ => .ite (fun _ _ => ⟨rfl, ?_⟩) fun _ h => ⟨rfl, ?_⟩
  · rw [Bool.and_eq_true, beq_iff_eq] at hslash
    obtain ⟨tail, rfl⟩ : ∃ tail, cs = '/' :: tail := by
      cases cs with
      | nil => cases hslash.2
      | cons x tail => exact ⟨tail, by rw [Option.some.inj hslash.2]⟩
    have hline : (tail ++ '\n' :: more).takeWhile (· != '\n') = tail.takeWhile (· != '\n') :=
      takeWhile_append_newline (by decide) tail more
    have hlength := (List.takeWhile_sublist (· != '\n') (l := tail)).length_le
    simp only [List.cons_append, List.drop_succ_cons, List.drop_zero, hline, List.length_cons]
    exact ⟨trivial, by omega⟩
  · exact blockComment_append h ('\n' :: more)
  · rw [Bool.and_eq_true, beq_iff_eq] at hraw
    obtain ⟨tail, rfl⟩ : ∃ tail, cs = '"' :: '"' :: tail := by
      have hcs := List.take_append_drop 2 cs
      rw [hraw.2] at hcs
      exact ⟨cs.drop 2, hcs.symm⟩
    obtain ⟨heq, hle⟩ := rawString_append h more
    exact ⟨heq, by simpa using hle⟩
  · simpa [Nat.add_comm] using hrun
  · have hle := length_numberTail_le cs
    dsimp only
    omega
  · split
    · next op hop =>
        have hfits := List.find?_some (p := fun op : List Char => op.isPrefixOf (c :: cs)) hop
        simpa using (List.isPrefixOf_iff_prefix.1 hfits).length_le
    · simp

end Lexemes

section Scans

variable {skip place line : Nat} {afterBreak : Bool}

/-- The token that a lexeme makes at a place, unless it is a line break behind another one. -/
def Lexeme.token? (found : Lexeme) (place line : Nat) (afterBreak : Bool) : Option Token :=
  match found.token with
  | none => none
  | some (kind, value, template) =>
    if kind == .newline && afterBreak then none
    else some ⟨kind, String.ofList value, line, place, place + found.length, template⟩

/-- Whether the last token behind a lexeme is a line break. -/
def Lexeme.breaks? (found : Lexeme) (afterBreak : Bool) : Bool :=
  match found.token with
  | none => afterBreak
  | some (kind, _, _) => kind == .newline

theorem scanFrom_lexeme (place line : Nat) (afterBreak : Bool) (c : Char) (cs : List Char) :
    scanFrom 0 place line afterBreak (c :: cs) =
      (scanFrom ((lexeme c cs).length - 1) (place + 1) (line + (lexeme c cs).breaks)
        ((lexeme c cs).breaks? afterBreak) cs).push ((lexeme c cs).token? place line afterBreak)
          ((lexeme c cs).fault.map fun f => (line, f)) := by
  rw [scanFrom, Lexeme.token?, Lexeme.breaks?]
  cases (lexeme c cs).token <;> rfl

/-- Whether a line break was the last token of a scan that was begun behind a line break or not. -/
def breaksLast (afterBreak : Bool) (tokens : List Token) : Bool :=
  (tokens.getLast?.map (·.kind == .newline)).getD afterBreak

theorem breaksLast_token? (found : Lexeme) (place line : Nat) (afterBreak : Bool)
    (tokens : List Token) :
    breaksLast afterBreak ((found.token? place line afterBreak).toList ++ tokens) =
      breaksLast (found.breaks? afterBreak) tokens := by
  have hcons : ∀ t : Token,
      breaksLast afterBreak (t :: tokens) = breaksLast (t.kind == .newline) tokens := by
    intro t
    cases tokens with
    | nil => rfl
    | cons u tokens => rfl
  rw [Lexeme.token?, Lexeme.breaks?]
  cases found.token with
  | none => rfl
  | some made =>
      obtain ⟨kind, value, template⟩ := made
      dsimp only
      split_ifs with hbreak
      · rw [Bool.and_eq_true] at hbreak
        rw [hbreak.1, hbreak.2]
        rfl
      · exact hcons _

/-- A text without faults is scanned to its tokens whatever follows on the next line. -/
theorem scanFrom_append (h : (scanFrom skip place line afterBreak cs).faults = [])
    (hskip : skip ≤ cs.length) (more : List Char) :
    ∃ place' line', scanFrom skip place line afterBreak (cs ++ '\n' :: more) =
      (scanFrom 0 place' line'
        (breaksLast afterBreak (scanFrom skip place line afterBreak cs).tokens)
        ('\n' :: more)).prepend (scanFrom skip place line afterBreak cs).tokens := by
  induction cs generalizing skip place line afterBreak with
  | nil =>
      obtain rfl := Nat.le_zero.1 hskip
      exact ⟨place, line, rfl⟩
  | cons c cs ih =>
      cases skip with
      | succ count => exact ih h (Nat.le_of_succ_le_succ hskip)
      | zero =>
          rw [scanFrom_lexeme, Scan.push, List.append_eq_nil_iff] at h
          have hfault : (lexeme c cs).fault = none := by simpa using h.1
          obtain ⟨heq, hle⟩ := lexeme_append c cs more hfault
          obtain ⟨place', line', hscan⟩ := ih h.2 (Nat.sub_le_of_le_add hle)
          refine ⟨place', line', ?_⟩
          rw [List.cons_append, scanFrom_lexeme, scanFrom_lexeme, heq, hscan, hfault, Scan.push,
            Scan.push, breaksLast_token?]
          simp [Scan.prepend]

theorem token?_sign (found : Lexeme) (place line place' line' : Nat) (afterBreak : Bool) :
    (found.token? place line afterBreak).toList.map Token.sign =
      (found.token? place' line' afterBreak).toList.map Token.sign := by
  rw [Lexeme.token?, Lexeme.token?]
  cases found.token with
  | none => rfl
  | some made =>
      dsimp only
      split_ifs <;> rfl

/-- Where a text stands does not change what its tokens say. -/
theorem scanFrom_signs (skip place line place' line' : Nat) (afterBreak : Bool) (cs : List Char) :
    (scanFrom skip place line afterBreak cs).tokens.map Token.sign =
      (scanFrom skip place' line' afterBreak cs).tokens.map Token.sign := by
  induction cs generalizing skip place line place' line' afterBreak with
  | nil => rfl
  | cons c cs ih =>
      cases skip with
      | succ count => exact ih count _ _ _ _ _
      | zero =>
          rw [scanFrom_lexeme, scanFrom_lexeme, Scan.push, Scan.push, List.map_append,
            List.map_append, token?_sign, ih]

/-- A text that begins with no line break is scanned alike behind one. -/
theorem scanFrom_behind_break
    (h : ∀ t ∈ (scanFrom skip place line false cs).tokens.head?, t.kind ≠ .newline) :
    scanFrom skip place line true cs = scanFrom skip place line false cs := by
  induction cs generalizing skip place line with
  | nil => rfl
  | cons c cs ih =>
      cases skip with
      | succ count => exact ih h
      | zero =>
          rw [scanFrom_lexeme] at h
          rw [scanFrom_lexeme, scanFrom_lexeme]
          rw [Lexeme.token?, Lexeme.breaks?] at h ⊢
          rw [Lexeme.token?, Lexeme.breaks?]
          cases hmade : (lexeme c cs).token with
          | none =>
              simp only [hmade] at h
              rw [ih h]
          | some made =>
              obtain ⟨kind, value, template⟩ := made
              have hkind : kind ≠ .newline := by
                simp only [hmade, Bool.and_false, Bool.false_eq_true, if_false] at h
                exact h _ rfl
              simp [hkind]

/-- The tokens of a text without faults and of a text on the lines below it. -/
theorem scan_joined {first second : String} (hfirst : (scan first).faults = [])
    (hsecond : ∀ t ∈ (scan second).tokens.head?, t.kind ≠ .newline) :
    ∃ above br below, (scan (first ++ "\n" ++ second)).tokens = above ++ br :: below ∧
      above.filter Token.isSignificant = (scan first).tokens.filter Token.isSignificant ∧
        br.kind = .newline ∧ below.map Token.sign = (scan second).tokens.map Token.sign := by
  have htext : (first ++ "\n" ++ second).toList = first.toList ++ '\n' :: second.toList := by simp
  obtain ⟨place, line, happend⟩ := scanFrom_append hfirst (Nat.zero_le _) second.toList
  obtain ⟨br, ⟨hbr, -⟩, hbreak⟩ := scanFrom_newline place line
    (breaksLast false (scan first).tokens) second.toList
  have hbelow := scanFrom_signs 0 (place + 1) (line + 1) 0 1 false second.toList
  have hhead : ∀ t ∈ (scanFrom 0 (place + 1) (line + 1) false second.toList).tokens.head?,
      t.kind ≠ .newline := by
    intro t ht
    have hsigns := congrArg List.head? hbelow
    rw [List.head?_map, List.head?_map, Option.mem_def.1 ht] at hsigns
    obtain ⟨u, hu, hsign⟩ := Option.map_eq_some_iff.1 hsigns.symm
    have hkind : u.kind = t.kind := congrArg Prod.fst hsign
    exact hkind ▸ hsecond u hu
  rw [← scanFrom_behind_break hhead] at hbelow
  have htokens : (scan (first ++ "\n" ++ second)).tokens = (scan first).tokens ++
      (br ++ (scanFrom 0 (place + 1) (line + 1) true second.toList).tokens) := by
    rw [scan, htext, happend]
    exact congrArg (fun s : Scan => (scan first).tokens ++ s.tokens) hbreak
  cases hlast : breaksLast false (scan first).tokens with
  | false =>
      rw [hlast, if_neg (by simp)] at hbr
      obtain ⟨b, rest, rfl, hb, hrest⟩ := List.map_eq_cons_iff.1 hbr
      obtain rfl := List.map_eq_nil_iff.1 hrest
      exact ⟨_, b, _, htokens, rfl, congrArg Prod.fst hb, hbelow⟩
  | true =>
      rw [hlast, if_pos rfl] at hbr
      obtain rfl := List.map_eq_nil_iff.1 hbr
      -- the line break at the end of the first text stands for both
      rcases List.eq_nil_or_concat' (scan first).tokens with hnil | ⟨above, b, habove⟩
      · rw [hnil] at hlast
        cases hlast
      · have hb : b.kind = .newline := by simpa [breaksLast, habove] using hlast
        refine ⟨above, b, _, by rw [htokens, habove]; simp, ?_, hb, hbelow⟩
        simp [habove, Token.isSignificant, hb]

end Scans

end BuildGraph.Script
