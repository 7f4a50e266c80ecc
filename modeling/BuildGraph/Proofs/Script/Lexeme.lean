import BuildGraph.Proofs.Text.Identifier
import BuildGraph.Script.Token

/-!
# What the scanner reads at one place

For each sort of text that a writer puts into a script, these statements say which lexeme stands at
its first character, whatever follows, as long as the text cannot run together with what follows. A
string literal denotes the text that was quoted, whatever characters it holds.
-/

namespace BuildGraph.Script

open BuildGraph.Text BuildGraph.Number

section Classes

variable {c : Char}

/-- The classes of ASCII characters. -/
theorem ascii_classes (h : c.toNat < 128) :
    isLetter c = c.isAlpha ∧ isDigit c = c.isDigit ∧ isWordChar c = isIdentifierChar c := by
  refine forall_ascii (P := fun c => isLetter c = c.isAlpha ∧ isDigit c = c.isDigit ∧
    isWordChar c = isIdentifierChar c) ?_ c h
  decide +kernel

theorem isLetter_ascii (h : c.toNat < 128) : isLetter c = c.isAlpha := (ascii_classes h).1

theorem isDigit_ascii (h : c.toNat < 128) : isDigit c = c.isDigit := (ascii_classes h).2.1

theorem isWordChar_ascii (h : c.toNat < 128) : isWordChar c = isIdentifierChar c :=
  (ascii_classes h).2.2

/-- Characters of identifiers may stand inside the words of a script. -/
theorem isWordChar_of_isIdentifierChar (h : isIdentifierChar c = true) : isWordChar c = true := by
  rwa [isWordChar_ascii (isIdentifierChar_toNat_lt h)]

/-- Characters that start identifiers start words. -/
theorem isLetter_of_isIdentifierStart (h : isIdentifierStart c = true) :
    isLetter c = true ∨ c = '_' := by
  simp only [isIdentifierStart, Bool.or_eq_true, beq_iff_eq] at h
  refine h.imp_left fun halpha => ?_
  rwa [isLetter_ascii (isAlphanum_toNat_lt (by simp [Char.isAlphanum, halpha]))]

theorem isWordChar_of_isLetter (h : isLetter c = true) : isWordChar c = true := by
  simp only [isLetter] at h
  simp [isWordChar, isAlphanumeric, h]

/-- Decimal digits of ASCII stand for digits, may stand inside words and start none. -/
theorem isDigit_of_isDigit (h : c.isDigit = true) :
    isDigit c = true ∧ isWordChar c = true ∧ isLetter c = false := by
  have hlt : c.toNat < 128 := isAlphanum_toNat_lt (by simp [Char.isAlphanum, h])
  have halpha : c.isAlpha = false :=
    forall_ascii (P := fun c => c.isDigit = true → c.isAlpha = false) (by decide) c hlt h
  rw [isDigit_ascii hlt, isWordChar_ascii hlt, isLetter_ascii hlt]
  simp [isIdentifierChar, Char.isAlphanum, h, halpha]

end Classes

section Words

variable {c : Char} {tail rest : List Char}

/-- What may not run together with a text that ends in characters of a sort: the end of all text,
or another sort of character. -/
def EndsBefore (p : Char → Bool) (rest : List Char) : Prop := ∀ x, rest.head? = some x → p x = false

theorem takeWhile_append_of_ends {p : Char → Bool} (htail : ∀ x ∈ tail, p x = true)
    (hrest : EndsBefore p rest) : (tail ++ rest).takeWhile p = tail := by
  have hnil : rest.takeWhile p = [] := by
    cases rest with
    | nil => rfl
    | cons x rest => rw [List.takeWhile_cons_of_neg (by simp [hrest x rfl])]
  rw [List.takeWhile_append_of_pos htail, hnil, List.append_nil]

/-- The characters that the scanner looks for before it looks for words. -/
def leadChars : List Char := ['\n', ' ', '\t', '\r', '\x0c', '\ufeff', '/', '"', '\'']

/-- No character of a word or number is one that the scanner looks for first. -/
theorem lead_char_starts_no_word (hc : c ∈ leadChars) :
    isLetter c = false ∧ c ≠ '_' ∧ c.isDigit = false := by
  have hmark : isLetter '\ufeff' = false := by decide +kernel
  fin_cases hc <;> simp [isLetter_ascii, hmark]

/-- What the scanner reads at a character that is none of those it looks for first. -/
theorem lexeme_of_not_mem_lead_chars (hc : c ∉ leadChars) :
    lexeme c rest =
      if isLetter c || c = '_' then
        { length := 1 + (rest.takeWhile isWordChar).length,
          token := some (.ident, c :: rest.takeWhile isWordChar, false) }
      else if c = '\x60' then tickedIdentifier rest
      else if isDigit c then
        { length := 1 + (numberTail rest).length,
          token := some (.number, c :: numberTail rest, false) }
      else match operators.find? fun op => op.isPrefixOf (c :: rest) with
        | some op => { length := op.length, token := some (.op, op, false) }
        | none => { length := 1, fault := some (.unexpected c) } := by
  simp only [leadChars, List.mem_cons, List.not_mem_nil, or_false, not_or] at hc
  obtain ⟨hbreak, hspace, htab, hreturn, hfeed, hmark, hslash, hquote, hapostrophe⟩ := hc
  exact (if_neg hbreak).trans ((if_neg (by simp [hspace, htab, hreturn, hfeed, hmark])).trans
    ((if_neg (by simp [hslash])).trans ((if_neg (by simp [hslash])).trans
      ((if_neg (by simp [hquote])).trans (if_neg (by simp [hquote, hapostrophe]))))))

/-- A letter or an underscore with the word characters behind it is an identifier. -/
theorem lexeme_word (hstart : isLetter c = true ∨ c = '_') (htail : ∀ x ∈ tail, isWordChar x = true)
    (hrest : EndsBefore isWordChar rest) :
    lexeme c (tail ++ rest) =
      { length := 1 + tail.length, token := some (.ident, c :: tail, false) } := by
  have hlead : c ∉ leadChars := by
    intro hmem
    obtain ⟨hletter, hline, -⟩ := lead_char_starts_no_word hmem
    simp [hletter, hline] at hstart
  rw [lexeme_of_not_mem_lead_chars hlead, if_pos (by simpa using hstart),
    takeWhile_append_of_ends htail hrest]

/-- What may follow a number: neither a character of words nor a point. -/
theorem numberTail_append (htail : ∀ x ∈ tail, x.isDigit = true)
    (hrest : EndsBefore (fun x => isWordChar x || x == '.') rest) :
    numberTail (tail ++ rest) = tail := by
  induction tail with
  | nil =>
      -- neither a digit nor a point follows
      cases rest with
      | nil => rfl
      | cons x rest =>
          have hx := hrest x rfl
          simp only [Bool.or_eq_false_iff, beq_eq_false_iff_ne] at hx
          rw [List.nil_append, numberTail.eq_4 _ _ hx.2]
          simp [hx.1]
  | cons x tail ih =>
      obtain ⟨hx, htail⟩ := List.forall_mem_cons.1 htail
      have hpoint : x ≠ '.' := by
        rintro rfl
        exact absurd hx (by decide)
      rw [List.cons_append, numberTail.eq_4 _ _ hpoint, ih htail,
        if_pos (isDigit_of_isDigit hx).2.1]

/-- Decimal digits are a number. -/
theorem lexeme_number (hc : c.isDigit = true) (htail : ∀ x ∈ tail, x.isDigit = true)
    (hrest : EndsBefore (fun x => isWordChar x || x == '.') rest) :
    lexeme c (tail ++ rest) =
      { length := 1 + tail.length, token := some (.number, c :: tail, false) } := by
  have hlead : c ∉ leadChars := by
    intro hmem
    simp [(lead_char_starts_no_word hmem).2.2] at hc
  obtain ⟨hdigit, -, hletter⟩ := isDigit_of_isDigit hc
  have hline : c ≠ '_' := by
    rintro rfl
    exact absurd hc (by decide)
  have htick : c ≠ '\x60' := by
    rintro rfl
    exact absurd hc (by decide)
  rw [lexeme_of_not_mem_lead_chars hlead, if_neg (by simp [hletter, hline]), if_neg htick,
    if_pos hdigit, numberTail_append htail hrest]

end Words

section Operators

/-- The operators as characters. -/
theorem operators_eq : operators = [['?', '.'], ['?', ':'], [':', ':'], ['!', '!'], ['=', '='],
    ['!', '='], ['<', '='], ['>', '='], ['&', '&'], ['|', '|'], ['-', '>'], ['.', '.'],
    ['+', '='], ['-', '='], ['\x7b'], ['\x7d'], ['('], [')'], ['['], [']'], ['<'], ['>'], [','],
    ['.'], [':'], [';'], ['='], ['!'], ['?'], ['+'], ['-'], ['*'], ['/'], ['%'], ['@'], ['&'],
    ['|']] := by
  simp [operators]

/-- No operator stands in the table before one that it begins. -/
theorem operators_pairwise : operators.Pairwise fun a b => ¬ a <+: b := by
  decide +kernel

/-- Of the operators that fit, the scanner finds the given one if no operator goes on with the next
character. -/
theorem find_operator {op rest : List Char} (hop : op ∈ operators)
    (hrest : ∀ x, rest.head? = some x → ∀ p ∈ operators, ¬ (op ++ [x]) <+: p) :
    operators.find? (fun p => p.isPrefixOf (op ++ rest)) = some op := by
  obtain ⟨p, hfound⟩ : ∃ p, operators.find? (fun p => p.isPrefixOf (op ++ rest)) = some p := by
    refine Option.isSome_iff_exists.1 (List.find?_isSome.2 ⟨op, hop, ?_⟩)
    simp
  obtain ⟨hp, before, after, htable, hbefore⟩ := List.find?_eq_some_iff_append.1 hfound
  have hprefix : p <+: op ++ rest := List.isPrefixOf_iff_prefix.1 hp
  have hmem : p ∈ operators := htable ▸ by simp
  have hpo : p <+: op := by
    rcases List.prefix_or_prefix_of_prefix hprefix (List.prefix_append op rest) with h | h
    · exact h
    · obtain ⟨more, rfl⟩ := h
      cases more with
      | nil => simp
      | cons x more =>
          obtain ⟨tail, htail⟩ := hprefix
          have hhead : rest.head? = some x := by
            have := List.append_cancel_left (List.append_assoc op _ tail ▸ htail)
            simp [← this]
          exact absurd ⟨more, by simp⟩ (hrest x hhead _ hmem)
  -- The operator itself is not passed over, and none that stands behind begins with the found one.
  have hpairwise := operators_pairwise
  rw [htable] at hpairwise hop
  rcases List.mem_append.1 hop with hop | hop
  · have hnot := hbefore op hop
    simp [List.isPrefixOf_iff_prefix.2 (List.prefix_append op rest)] at hnot
  · rcases List.mem_cons.1 hop with rfl | hop
    · exact hfound
    · have hafter := (List.pairwise_append.1 hpairwise).2.1
      exact absurd hpo ((List.pairwise_cons.1 hafter).1 op hop)

/-- The characters with which operators start, the slash left out. -/
def operatorStarts : List Char :=
  ['?', ':', '!', '=', '<', '>', '&', '|', '-', '.', '+', '\x7b', '\x7d', '(', ')', '[', ']', ',',
    ';', '*', '%', '@']

theorem operator_start_starts_nothing_else {c : Char} (hc : c ∈ operatorStarts) :
    c ∉ leadChars ∧ isLetter c = false ∧ c ≠ '_' ∧ c ≠ '\x60' ∧ isDigit c = false := by
  fin_cases hc <;> simp [leadChars, isLetter_ascii, isDigit_ascii]

/-- An operator other than a slash is read as it stands, if no operator goes on with the next
character. -/
theorem lexeme_operator {c : Char} {tail rest : List Char} (hop : c :: tail ∈ operators)
    (hslash : c ≠ '/')
    (hrest : ∀ x, rest.head? = some x → ∀ p ∈ operators, ¬ (c :: tail ++ [x]) <+: p) :
    lexeme c (tail ++ rest) =
      { length := 1 + tail.length, token := some (.op, c :: tail, false) } := by
  have hstart : ∀ op ∈ operators, ∀ x ∈ op.head?, x ≠ '/' → x ∈ operatorStarts := by
    simp [operators_eq, operatorStarts]
  obtain ⟨hc, hletter, hline, htick, hdigit⟩ :=
    operator_start_starts_nothing_else (hstart _ hop c rfl hslash)
  rw [lexeme_of_not_mem_lead_chars hc, if_neg (by simp [hletter, hline]), if_neg htick,
    if_neg (by simp [hdigit])]
  have hfind := find_operator hop hrest
  rw [List.cons_append] at hfind
  rw [hfind, Nat.add_comm]
  rfl

end Operators

section Literals

variable {rest : List Char}

/-- The four digits behind a backslash and a `u` give back the character they were written for. -/
theorem numbered_char_hexDigits {c : Char} (hc : c.toNat < 0x20 ∨ c.toNat = 0x7f) :
    ∃ w x y z, hexDigits 4 c.toNat = [w, x, y, z] ∧ numberedChar? w x y z = some c := by
  refine ⟨_, _, _, _, rfl, ?_⟩
  have hlt : c.toNat < 128 := by omega
  refine forall_ascii (P := fun c => c.toNat < 0x20 ∨ c.toNat = 0x7f → numberedChar?
    (hexDigit (c.toNat / 16 / 16 / 16 % 16)) (hexDigit (c.toNat / 16 / 16 % 16))
    (hexDigit (c.toNat / 16 % 16)) (hexDigit (c.toNat % 16)) = some c) ?_ c hlt hc
  decide +kernel

/-- An escape by one letter is read as what the letter stands for. -/
theorem body_escaped {c : Char} (hc : c ≠ 'u') :
    bodyOf '"' ('\\' :: c :: rest) = (bodyOf '"' rest).push (unescapeChar c) 2 :=
  bodyOf.eq_3 _ _ _ fun _ _ _ _ _ hu => absurd hu hc

/-- A character that needs no escape is read as itself. -/
theorem body_plain {c : Char} (hslash : c ≠ '\\') (hquote : c ≠ '"') (hline : c ≠ '\n')
    (hdollar : c ≠ '$') : bodyOf '"' (c :: rest) = (bodyOf '"' rest).push c 1 := by
  rw [bodyOf.eq_4 _ _ _ (fun _ _ _ _ _ h => absurd h hslash) fun _ _ h => absurd h hslash,
    if_neg hquote, if_neg hline]
  simp [LiteralBody.push, hdollar]

/-- A character as it stands in a literal is read back. -/
theorem body_escape_char (c : Char) :
    bodyOf '"' (escapeChar c ++ rest) = (bodyOf '"' rest).push c (escapeChar c).length := by
  rw [escapeChar]
  split_ifs with hslash hquote hdollar hline hreturn htab hcontrol
  · subst hslash
    exact body_escaped (by decide)
  · subst hquote
    exact body_escaped (by decide)
  · subst hdollar
    exact body_escaped (by decide)
  · subst hline
    exact body_escaped (by decide)
  · subst hreturn
    exact body_escaped (by decide)
  · subst htab
    exact body_escaped (by decide)
  · simp only [Bool.or_eq_true, decide_eq_true_eq, beq_iff_eq] at hcontrol
    obtain ⟨w, x, y, z, hdigits, hnumber⟩ := numbered_char_hexDigits hcontrol
    rw [hdigits]
    simp only [List.cons_append, List.nil_append, bodyOf.eq_2, hnumber, List.length_cons,
      List.length_nil]
  · exact body_plain hslash hquote hline hdollar

/-- The inside of a literal is read back up to the closing quote. -/
theorem body_escape_chars (cs : List Char) :
    bodyOf '"' (escapeChars cs ++ '"' :: rest) =
      ⟨cs, (escapeChars cs).length + 1, false, true⟩ := by
  induction cs with
  | nil => simp [escapeChars, bodyOf]
  | cons c cs ih =>
      have hcons : escapeChars (c :: cs) = escapeChar c ++ escapeChars cs := rfl
      rw [hcons, List.append_assoc, body_escape_char, ih]
      simp [LiteralBody.push]
      omega

/-- What an escaped character starts with is no quote. -/
theorem escapeChar_head_ne_quote (c : Char) : ∀ x ∈ (escapeChar c).head?, x ≠ '"' := by
  rw [escapeChar]
  split_ifs with _ hquote
  all_goals simp
  exact hquote

/-- The literal of a text denotes the text, when no further quote follows. -/
theorem lexeme_literal (s : String) (hrest : EndsBefore (· == '"') rest) :
    lexeme '"' (escapeChars s.toList ++ '"' :: rest) =
      { length := (quoteChars s).length, token := some (.string, s.toList, false) } := by
  -- two quotes at the start would open a literal over several lines
  have hraw : ((escapeChars s.toList ++ '"' :: rest).take 2 == ['"', '"']) = false := by
    cases hs : s.toList with
    | nil =>
        cases rest with
        | nil => rfl
        | cons x rest => simpa [escapeChars] using hrest x rfl
    | cons c cs =>
        obtain ⟨x, tail, htail⟩ : ∃ x tail, escapeChar c = x :: tail := by
          rw [escapeChar]
          split_ifs <;> exact ⟨_, _, rfl⟩
        have hx := escapeChar_head_ne_quote c x (by simp [htail])
        simp [escapeChars, htail, hx]
  have hlexeme : lexeme '"' (escapeChars s.toList ++ '"' :: rest) =
      quotedString '"' (escapeChars s.toList ++ '"' :: rest) := by
    simp [lexeme, hraw]
  rw [hlexeme, quotedString, body_escape_chars]
  simp [quoteChars]
  omega

end Literals

section Comments

variable {words rest : List Char}

/-- Two slashes and what stands behind them on the line are a comment. -/
theorem lexeme_comment (hwords : ∀ x ∈ words, x ≠ '\n') (hrest : EndsBefore (· != '\n') rest) :
    lexeme '/' ('/' :: words ++ rest) =
      { length := 2 + words.length, token := some (.comment, trimChars words, false) } := by
  have htake : (words ++ rest).takeWhile (· != '\n') = words :=
    takeWhile_append_of_ends (by simpa using hwords) hrest
  simp [lexeme, htake]

/-- Two characters next to each other neither open nor end a comment. -/
def Quiet (x y : Char) : Prop := ¬ (x = '/' ∧ y = '*') ∧ ¬ (x = '*' ∧ y = '/')

/-- An open comment whose words open and end none goes on to the mark that ends it. -/
theorem commentLength_append (hwords : (words ++ ['*']).IsChain Quiet) :
    commentLength 1 (words ++ '*' :: '/' :: rest) = (words.length + 2, true) := by
  induction words with
  | nil => simp [commentLength]
  | cons c words ih =>
      obtain ⟨x, tail, htail⟩ : ∃ x tail, words ++ ['*'] = x :: tail :=
        List.exists_cons_of_ne_nil (by simp)
      have hall : words ++ '*' :: '/' :: rest = x :: (tail ++ '/' :: rest) := by
        rw [← List.cons_append, ← htail]
        simp
      rw [List.cons_append, htail] at hwords
      have hquiet : Quiet c x := (List.isChain_cons_cons.1 hwords).1
      have hopens : ∀ more, c = '/' → words ++ '*' :: '/' :: rest = '*' :: more → False :=
        fun more hc heq => hquiet.1 ⟨hc, (List.cons.inj (hall ▸ heq)).1⟩
      have hends : ∀ more, c = '*' → words ++ '*' :: '/' :: rest = '/' :: more → False :=
        fun more hc heq => hquiet.2 ⟨hc, (List.cons.inj (hall ▸ heq)).1⟩
      rw [List.cons_append, commentLength.eq_4 _ _ _ hopens hends, ih (htail ▸ hwords.tail)]
      simp

/-- A block comment whose words open and end none is passed over as a whole. -/
theorem lexeme_block_comment (hwords : (words ++ ['*']).IsChain Quiet) :
    ∃ breaks, lexeme '/' ('*' :: words ++ '*' :: '/' :: rest) =
      { length := words.length + 4, breaks } := by
  refine ⟨(('/' :: '*' :: words ++ '*' :: '/' :: rest).take (words.length + 4)).count '\n', ?_⟩
  have hlexeme : lexeme '/' ('*' :: words ++ '*' :: '/' :: rest) =
      blockComment ('/' :: '*' :: words ++ '*' :: '/' :: rest) := by
    simp [lexeme]
  rw [hlexeme, blockComment, List.cons_append, List.cons_append, commentLength.eq_2,
    commentLength_append hwords]
  rfl

end Comments

end BuildGraph.Script
