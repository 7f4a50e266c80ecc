import BuildGraph.Proofs.Script.Lexeme
import BuildGraph.Proofs.Text.Trim

/-!
# Scanning written lines

A line that a writer puts together from words, numbers, operators, literals and blanks is scanned to
the tokens it was put together from, as long as no two neighbours run together. What a token says
without its place in the text is its `Sign`. `Scans` tells to which signs a text at the end of a
line is scanned, and `scan_lines` carries this over to a whole text. Both hold however the lines of
the text end.
-/

namespace BuildGraph.Script

open BuildGraph.Text

/-- What a token says: its kind and its value. -/
abbrev Sign := TokenKind × String

/-- What the token says, without its place in the text. -/
def Token.sign (t : Token) : Sign := (t.kind, t.value)

namespace Sign

/-- The sign of an identifier. -/
def ident (name : String) : Sign := (.ident, name)

/-- The sign of an operator. -/
def op (mark : String) : Sign := (.op, mark)

/-- The sign of a string literal. -/
def string (text : String) : Sign := (.string, text)

/-- The sign of a number. -/
def number (digits : String) : Sign := (.number, digits)

/-- The sign of a line break. -/
def newline : Sign := (.newline, "\n")

/-- The sign of a line comment. -/
def comment (words : String) : Sign := (.comment, words)

end Sign

/-- Whether the text is an identifier of ASCII characters. -/
def isIdentifier : List Char → Bool
  | [] => false
  | c :: rest => isIdentifierStart c && rest.all isIdentifierChar

/-- A part of a written line. -/
inductive Piece where
  | blank
  | word (name : String)
  | number (digits : String)
  | operator (mark : String)
  | literal (text : String)

namespace Piece

/-- The part as it stands in the line. -/
def chars : Piece → List Char
  | blank => [' ']
  | word name => name.toList
  | number digits => digits.toList
  | operator mark => mark.toList
  | literal text => quoteChars text

/-- The sign that the part is scanned to. -/
def sign? : Piece → Option Sign
  | blank => none
  | word name => some (.ident name)
  | number digits => some (.number digits)
  | operator mark => some (.op mark)
  | literal text => some (.string text)

/-- The part is what it is called. -/
def WellFormed : Piece → Prop
  | blank => True
  | word name => isIdentifier name.toList = true
  | number digits => digits ≠ "" ∧ ∀ x ∈ digits.toList, x.isDigit = true
  | operator mark => mark.toList ∈ operators ∧ mark.toList.head? ≠ some '/'
  | literal _ => True

/-- Whether no operator goes on with a character. -/
def endsOperator (mark : String) (x : Char) : Bool :=
  operators.all fun p => !(mark.toList ++ [x]).isPrefixOf p

/-- Whether a part may stand directly before another. -/
def joins : Piece → Piece → Bool
  | word _, word _ | word _, number _ | number _, word _ | number _, number _ => false
  | literal _, literal _ => false
  | number _, operator mark => mark.toList.head? != some '.'
  | operator mark, operator next => next.toList.head?.all (endsOperator mark)
  | _, _ => true

/-- What must hold of the text behind a part so that the two do not run together. -/
def Fits (rest : List Char) : Piece → Prop
  | blank => True
  | word _ => EndsBefore isWordChar rest
  | number _ => EndsBefore (fun x => isWordChar x || x == '.') rest
  | operator mark => ∀ x, rest.head? = some x → ∀ p ∈ operators, ¬ (mark.toList ++ [x]) <+: p
  | literal _ => EndsBefore (· == '"') rest

end Piece

/-- How the lines of a text end. -/
inductive LineEnd where
  | feed
  /-- A carriage return stands before every line feed. -/
  | returned

namespace LineEnd

/-- The characters at the end of a line. -/
def chars : LineEnd → List Char
  | feed => ['\n']
  | returned => ['\r', '\n']

/-- Characters with other ends of lines in the place of line feeds. -/
def respellChars (e : LineEnd) (cs : List Char) : List Char :=
  cs.flatMap fun c => if c = '\n' then e.chars else [c]

@[simp]
theorem respellChars_append (e : LineEnd) (cs more : List Char) :
    e.respellChars (cs ++ more) = e.respellChars cs ++ e.respellChars more :=
  List.flatMap_append

@[simp]
theorem respellChars_cons_newline (e : LineEnd) (cs : List Char) :
    e.respellChars ('\n' :: cs) = e.chars ++ e.respellChars cs := by
  simp [respellChars]

theorem respellChars_cons_of_ne (e : LineEnd) {c : Char} (hc : c ≠ '\n') (cs : List Char) :
    e.respellChars (c :: cs) = c :: e.respellChars cs := by
  simp [respellChars, hc]

/-- A text within a line has no end of a line. -/
theorem respellChars_of_ne (e : LineEnd) (cs : List Char) (h : ∀ x ∈ cs, x ≠ '\n') :
    e.respellChars cs = cs := by
  induction cs with
  | nil => rfl
  | cons c cs ih =>
      obtain ⟨hc, hcs⟩ := List.forall_mem_cons.1 h
      rw [e.respellChars_cons_of_ne hc, ih hcs]

@[simp]
theorem respellChars_feed (cs : List Char) : feed.respellChars cs = cs := by
  have hone : ∀ c : Char, (if c = '\n' then feed.chars else [c]) = [c] := by
    intro c
    split
    · next h => rw [h]; rfl
    · rfl
  simp [respellChars, hone]

/-- A text whose lines end in line feeds, with other ends of lines. -/
def respell (e : LineEnd) (text : String) : String := String.ofList (e.respellChars text.toList)

@[simp]
theorem respell_feed (text : String) : feed.respell text = text := by
  simp [respell]

end LineEnd

/-- The text is at the end of a line. -/
def EndsLine (rest : List Char) : Prop :=
  rest = [] ∨ ∃ (e : LineEnd) (more : List Char), rest = e.chars ++ more

theorem EndsLine.ends_before {p : Char → Bool} {rest : List Char} (h : EndsLine rest)
    (hfeed : p '\n' = false) (hreturn : p '\r' = false) : EndsBefore p rest := by
  rcases h with rfl | ⟨e, more, rfl⟩
  · intro x hx
    cases hx
  · cases e with
    | feed =>
        rintro x ⟨⟩
        exact hfeed
    | returned =>
        rintro x ⟨⟩
        exact hreturn

theorem newline_not_mem_escapeChar (c : Char) : '\n' ∉ escapeChar c := by
  have hdigit : ∀ k < 16, hexDigit k ≠ '\n' := by decide
  rw [escapeChar]
  split_ifs with h₁ h₂ h₃ h₄ h₅ h₆ h₇
  all_goals try simp
  · have hmod : ∀ k, '\n' ≠ hexDigit (k % 16) := fun k => (hdigit _ (Nat.mod_lt _ (by decide))).symm
    simp [hexDigits, hmod]
  · exact fun h => h₄ h.symm

/-- A literal stays within a line. -/
theorem newline_not_mem_quote (value : String) : ∀ x ∈ (quote value).toList, x ≠ '\n' := by
  rintro x hx rfl
  simp only [quote, quoteChars, escapeChars, String.toList_ofList, List.mem_cons, List.mem_append,
    List.mem_flatMap, List.not_mem_nil, or_false] at hx
  rcases hx with hx | ⟨c, -, hc⟩ | hx
  · exact absurd hx (by decide)
  · exact newline_not_mem_escapeChar c hc
  · exact absurd hx (by decide)

/-- No operator holds a character that is not one of the marks. -/
theorem not_prefix_operator {op : List Char} {x : Char} (hx : ∀ p ∈ operators, x ∉ p) :
    ∀ p ∈ operators, ¬ (op ++ [x]) <+: p :=
  fun p hp hfront => hx p hp (hfront.subset (by simp))

/-- The characters of operators. -/
theorem mem_marks {op : List Char} {x : Char} (hop : op ∈ operators) (hx : x ∈ op) :
    x ∈ '/' :: operatorStarts := by
  have hmarks : ∀ op ∈ operators, ∀ x ∈ op, x ∈ '/' :: operatorStarts := by
    simp [operators_eq, operatorStarts]
  exact hmarks op hop x hx

/-- The characters of operators stand in no word and start no literal. -/
theorem mark_in_no_word {x : Char} (hx : x ∈ '/' :: operatorStarts) :
    isWordChar x = false ∧ x ≠ '"' ∧ x ≠ ' ' ∧ x ≠ '\n' := by
  fin_cases hx <;> simp [isWordChar_ascii, isIdentifierChar]

/-- The first character of a word or number is a word character. -/
theorem isWordChar_of_isIdentifierStart {x : Char} (hx : isIdentifierStart x = true) :
    isWordChar x = true := by
  rcases isLetter_of_isIdentifierStart hx with h | rfl
  · exact isWordChar_of_isLetter h
  · simp [isWordChar_ascii, isIdentifierChar]

namespace Piece

/-- How the text of a part starts. -/
def Starts (x : Char) : Piece → Prop
  | blank => x = ' '
  | word _ | number _ => isWordChar x = true
  | operator mark => mark.toList.head? = some x ∧ x ∈ '/' :: operatorStarts
  | literal _ => x = '"'

theorem chars_eq_cons {q : Piece} (hq : q.WellFormed) :
    ∃ x tail, q.chars = x :: tail ∧ q.Starts x := by
  cases q with
  | blank => exact ⟨' ', [], rfl, rfl⟩
  | word name =>
      simp only [WellFormed] at hq
      cases hname : name.toList with
      | nil => simp [hname, isIdentifier] at hq
      | cons x tail =>
          simp only [hname, isIdentifier, Bool.and_eq_true] at hq
          exact ⟨x, tail, hname, isWordChar_of_isIdentifierStart hq.1⟩
  | number digits =>
      cases hchars : digits.toList with
      | nil => exact absurd (String.toList_eq_nil_iff.1 hchars) hq.1
      | cons x tail => exact ⟨x, tail, hchars, (isDigit_of_isDigit (hq.2 x (by simp [hchars]))).2.1⟩
  | operator mark =>
      cases hchars : mark.toList with
      | nil =>
          have hop := hq.1
          simp [hchars, operators_eq] at hop
      | cons x tail => exact ⟨x, tail, hchars, by simp [hchars], mem_marks hq.1 (by simp [hchars])⟩
  | literal text => exact ⟨'"', _, rfl, rfl⟩

/-- A word goes on only with a word or a number. -/
theorem Starts.ends_word {q : Piece} {x : Char} (hx : q.Starts x) (hword : ∀ name, q ≠ word name)
    (hnumber : ∀ digits, q ≠ number digits) : isWordChar x = false := by
  cases q with
  | blank => exact hx ▸ by simp [isWordChar_ascii, isIdentifierChar]
  | word name => exact absurd rfl (hword name)
  | number digits => exact absurd rfl (hnumber digits)
  | operator mark => exact (mark_in_no_word hx.2).1
  | literal text => exact hx ▸ by simp [isWordChar_ascii, isIdentifierChar]

/-- An operator goes on only with an operator. -/
theorem Starts.ends_operator {q : Piece} {x : Char} (hx : q.Starts x)
    (hoperator : ∀ mark, q ≠ operator mark) : x ∉ '/' :: operatorStarts := by
  intro hmem
  obtain ⟨hword, hquote, hblank, -⟩ := mark_in_no_word hmem
  cases q with
  | blank => exact hblank hx
  | word name => exact Bool.false_ne_true (hword.symm.trans hx)
  | number digits => exact Bool.false_ne_true (hword.symm.trans hx)
  | operator mark => exact hoperator mark rfl
  | literal text => exact hquote hx

/-- A quote goes on only with a literal. -/
theorem Starts.ends_quote {q : Piece} {x : Char} (hx : q.Starts x)
    (hliteral : ∀ text, q ≠ literal text) : x ≠ '"' := by
  rintro rfl
  have hquote : isWordChar '"' = false := by simp [isWordChar_ascii, isIdentifierChar]
  cases q with
  | blank => cases hx
  | word name => exact Bool.false_ne_true (hquote.symm.trans hx)
  | number digits => exact Bool.false_ne_true (hquote.symm.trans hx)
  | operator mark => exact (mark_in_no_word hx.2).2.1 rfl
  | literal text => exact hliteral text rfl

/-- Parts that may stand next to each other do not run together. -/
theorem fits_of_joins {p q : Piece} {rest : List Char} (hq : q.WellFormed)
    (h : joins p q = true) : p.Fits (q.chars ++ rest) := by
  obtain ⟨x, tail, hchars, hx⟩ := chars_eq_cons hq
  rw [hchars, List.cons_append]
  cases p with
  | blank => trivial
  | word name =>
      rintro y ⟨⟩
      refine hx.ends_word ?_ ?_ <;> rintro _ rfl <;> simp [joins] at h
  | number digits =>
      rintro y ⟨⟩
      rw [Bool.or_eq_false_iff, beq_eq_false_iff_ne]
      constructor
      · refine hx.ends_word ?_ ?_ <;> rintro _ rfl <;> simp [joins] at h
      · -- only an operator starts with a point, and this one may not follow a number
        rintro rfl
        refine hx.ends_operator ?_ (by simp [operatorStarts])
        rintro mark rfl
        simp [joins, hx.1] at h
  | operator mark =>
      rintro y ⟨⟩ p hp hfront
      have hmem : x ∈ p := hfront.subset (List.mem_append_right _ (List.mem_singleton_self x))
      refine hx.ends_operator ?_ (mem_marks hp hmem)
      rintro next rfl
      simp only [joins, hx.1, Option.all_some, endsOperator, List.all_eq_true,
        Bool.not_eq_true'] at h
      have hnot := h p hp
      rw [List.isPrefixOf_iff_prefix.2 hfront] at hnot
      cases hnot
  | literal text =>
      rintro y ⟨⟩
      rw [beq_eq_false_iff_ne]
      refine hx.ends_quote ?_
      rintro _ rfl
      simp [joins] at h

/-- No part runs together with the end of a line. -/
theorem fits_of_ends_line {p : Piece} {rest : List Char} (hrest : EndsLine rest) :
    p.Fits rest := by
  cases p with
  | blank => trivial
  | word name =>
      exact hrest.ends_before (by simp [isWordChar_ascii, isIdentifierChar])
        (by simp [isWordChar_ascii, isIdentifierChar])
  | number digits =>
      exact hrest.ends_before (by simp [isWordChar_ascii, isIdentifierChar])
        (by simp [isWordChar_ascii, isIdentifierChar])
  | operator mark =>
      intro x hx
      refine not_prefix_operator fun p hp hmem => ?_
      have hmark := hrest.ends_before (p := fun x => decide (x ∈ '/' :: operatorStarts))
        (by decide) (by decide) x hx
      exact of_decide_eq_false hmark (mem_marks hp hmem)
  | literal text => exact hrest.ends_before (by decide) (by decide)

/-- A part stays within a line. -/
theorem newline_not_mem_chars {p : Piece} (hp : p.WellFormed) : ∀ x ∈ p.chars, x ≠ '\n' := by
  have hword : isWordChar '\n' = false := by simp [isWordChar_ascii, isIdentifierChar]
  cases p with
  | blank => simp [chars]
  | word name =>
      rintro x hx rfl
      have hall : ∀ y ∈ name.toList, isWordChar y = true := by
        simp only [WellFormed] at hp
        cases hname : name.toList with
        | nil => simp
        | cons c tail =>
            simp only [hname, isIdentifier, Bool.and_eq_true, List.all_eq_true] at hp
            exact List.forall_mem_cons.2 ⟨isWordChar_of_isIdentifierStart hp.1, fun y hy =>
              isWordChar_of_isIdentifierChar (hp.2 y hy)⟩
      exact Bool.false_ne_true (hword.symm.trans (hall _ hx))
  | number digits =>
      rintro x hx rfl
      exact Bool.false_ne_true (hword.symm.trans (isDigit_of_isDigit (hp.2 _ hx)).2.1)
  | operator mark =>
      exact fun x hx => (mark_in_no_word (mem_marks hp.1 hx)).2.2.2
  | literal text => simpa [chars, quote] using newline_not_mem_quote text

end Piece

/-- A scan with further tokens in front. -/
def Scan.prepend (tokens : List Token) (s : Scan) : Scan := ⟨tokens ++ s.tokens, s.faults⟩

/-- The tokens have the signs, and no template starts in a literal among them. -/
structure Shows (tokens : List Token) (signs : List Sign) : Prop where
  signs : tokens.map Token.sign = signs
  bare : ∀ t ∈ tokens, t.template = false

theorem shows_nil : Shows [] [] := ⟨rfl, by simp⟩

theorem Shows.append {tokens more : List Token} {signs moreSigns : List Sign}
    (h : Shows tokens signs) (hmore : Shows more moreSigns) :
    Shows (tokens ++ more) (signs ++ moreSigns) where
  signs := by rw [List.map_append, h.signs, hmore.signs]
  bare := fun t ht => (List.mem_append.1 ht).elim (h.bare t) (hmore.bare t)

/-- The characters of a lexeme are passed over. -/
theorem scanFrom_skip (cs : List Char) (place line : Nat) (afterBreak : Bool) (rest : List Char) :
    scanFrom cs.length place line afterBreak (cs ++ rest) =
      scanFrom 0 (place + cs.length) line afterBreak rest := by
  induction cs generalizing place with
  | nil => rfl
  | cons c cs ih =>
      rw [List.length_cons, List.cons_append, scanFrom, ih, Nat.add_assoc, Nat.add_comm 1]

/-- A lexeme that makes a token other than a line break puts it in front. -/
theorem scanFrom_token {c : Char} {tail rest : List Char} {kind : TokenKind} {value : List Char}
    (hkind : kind ≠ .newline)
    (h : lexeme c (tail ++ rest) =
      { length := 1 + tail.length, token := some (kind, value, false) })
    (place line : Nat) (afterBreak : Bool) :
    ∃ tokens, Shows tokens [(kind, String.ofList value)] ∧
      scanFrom 0 place line afterBreak (c :: tail ++ rest) =
        (scanFrom 0 (place + 1 + tail.length) line false rest).prepend tokens := by
  refine ⟨[⟨kind, String.ofList value, line, place, place + (1 + tail.length), false⟩],
    ⟨rfl, by simp⟩, ?_⟩
  have hbreak : (kind == TokenKind.newline) = false := by simpa using hkind
  rw [List.cons_append, scanFrom, h]
  simp only [hbreak, Bool.false_and, Bool.false_eq_true, if_false, Nat.add_zero, Option.map_none]
  rw [Nat.add_sub_cancel_left, scanFrom_skip]
  rfl

/-- A part that is one lexeme is scanned to its sign. -/
theorem scanFrom_piece_of_lexeme (p : Piece) {c : Char} {tail rest : List Char} {kind : TokenKind}
    {value : List Char} (hchars : p.chars = c :: tail) (hkind : kind ≠ .newline)
    (hlexeme : lexeme c (tail ++ rest) =
      { length := 1 + tail.length, token := some (kind, value, false) })
    (hsign : p.sign? = some (kind, String.ofList value)) (place line : Nat) (afterBreak : Bool) :
    ∃ tokens place', Shows tokens p.sign?.toList ∧
      scanFrom 0 place line afterBreak (p.chars ++ rest) =
        (scanFrom 0 place' line (afterBreak && p.sign?.isNone) rest).prepend tokens := by
  -- the sign of the part is that of the only token
  obtain ⟨tokens, htokens, hscan⟩ := scanFrom_token hkind hlexeme place line afterBreak
  refine ⟨tokens, place + 1 + tail.length, by simpa [hsign] using htokens, ?_⟩
  rw [hchars, hscan, hsign]
  simp

/-- A part of a line is scanned to its sign. -/
theorem scanFrom_piece {p : Piece} {rest : List Char} (hp : p.WellFormed) (hfits : p.Fits rest)
    (place line : Nat) (afterBreak : Bool) :
    ∃ tokens place', Shows tokens p.sign?.toList ∧
      scanFrom 0 place line afterBreak (p.chars ++ rest) =
        (scanFrom 0 place' line (afterBreak && p.sign?.isNone) rest).prepend tokens := by
  cases p with
  | blank =>
      refine ⟨[], place + 1, shows_nil, ?_⟩
      simp [Piece.chars, scanFrom, lexeme, Scan.prepend, Scan.push, Piece.sign?]
  | word name =>
      simp only [Piece.WellFormed] at hp
      cases hname : name.toList with
      | nil => simp [hname, isIdentifier] at hp
      | cons c tail =>
          simp only [hname, isIdentifier, Bool.and_eq_true, List.all_eq_true] at hp
          have hlexeme := lexeme_word (isLetter_of_isIdentifierStart hp.1)
            (fun x hx => isWordChar_of_isIdentifierChar (hp.2 x hx)) hfits
          refine scanFrom_piece_of_lexeme (.word name) hname (by decide) hlexeme ?_ place line
            afterBreak
          simp [Piece.sign?, Sign.ident, ← hname]
  | number digits =>
      obtain ⟨hne, hdigits⟩ := hp
      cases hchars : digits.toList with
      | nil => exact absurd (String.toList_eq_nil_iff.1 hchars) hne
      | cons c tail =>
          rw [hchars] at hdigits
          obtain ⟨hc, htail⟩ := List.forall_mem_cons.1 hdigits
          have hlexeme := lexeme_number hc htail hfits
          refine scanFrom_piece_of_lexeme (.number digits) hchars (by decide) hlexeme ?_ place line
            afterBreak
          simp [Piece.sign?, Sign.number, ← hchars]
  | operator mark =>
      obtain ⟨hop, hslash⟩ := hp
      cases hchars : mark.toList with
      | nil =>
          rw [hchars] at hop
          simp [operators_eq] at hop
      | cons c tail =>
          simp only [Piece.Fits, hchars] at hfits
          rw [hchars] at hop hslash
          have hlexeme := lexeme_operator hop (by simpa using hslash) hfits
          refine scanFrom_piece_of_lexeme (.operator mark) hchars (by decide) hlexeme ?_ place line
            afterBreak
          simp [Piece.sign?, Sign.op, ← hchars]
  | literal text =>
      have hlexeme : lexeme '"' (escapeChars text.toList ++ ['"'] ++ rest) =
          { length := 1 + (escapeChars text.toList ++ ['"']).length,
            token := some (.string, text.toList, false) } := by
        rw [List.append_assoc, List.cons_append, List.nil_append, lexeme_literal text hfits]
        simp [quoteChars]
        omega
      refine scanFrom_piece_of_lexeme (.literal text) rfl (by decide) hlexeme ?_ place line
        afterBreak
      simp [Piece.sign?, Sign.string]

/-- At the end of a line the text is scanned to the signs, however its own lines end. -/
def Scans (cs : List Char) (signs : List Sign) : Prop :=
  ∀ (e : LineEnd) place line afterBreak rest, EndsLine rest → ∃ tokens place' line',
    Shows tokens signs ∧
      scanFrom 0 place line afterBreak (e.respellChars cs ++ rest) =
        (scanFrom 0 place' line' (afterBreak && signs.isEmpty) rest).prepend tokens

/-- A text that is all there is is scanned to its signs. -/
theorem Scans.whole {cs : List Char} {signs : List Sign} (h : Scans cs signs) :
    ∃ tokens, Shows tokens signs ∧ scanFrom 0 0 1 false cs = ⟨tokens, []⟩ := by
  obtain ⟨tokens, place, line, htokens, hscan⟩ := h .feed 0 1 false [] (.inl rfl)
  rw [LineEnd.respellChars_feed, List.append_nil] at hscan
  exact ⟨tokens, htokens, by simp [hscan, Scan.prepend, scanFrom]⟩

/-- Parts that may stand next to each other are scanned to their signs. -/
theorem scanFrom_pieces {pieces : List Piece} {rest : List Char}
    (hwell : ∀ p ∈ pieces, p.WellFormed) (hjoins : pieces.IsChain fun p q => p.joins q = true)
    (hrest : EndsLine rest) (place line : Nat) (afterBreak : Bool) :
    ∃ tokens place', Shows tokens (pieces.filterMap Piece.sign?) ∧
      scanFrom 0 place line afterBreak (pieces.flatMap Piece.chars ++ rest) =
        (scanFrom 0 place' line (afterBreak && (pieces.filterMap Piece.sign?).isEmpty) rest).prepend
          tokens := by
  induction pieces generalizing place afterBreak with
  | nil => exact ⟨[], place, shows_nil, by simp [Scan.prepend]⟩
  | cons p pieces ih =>
      obtain ⟨hp, hwell⟩ := List.forall_mem_cons.1 hwell
      -- what stands behind the part is the next part, or the end of the line
      have hfits : p.Fits (pieces.flatMap Piece.chars ++ rest) := by
        cases pieces with
        | nil => exact Piece.fits_of_ends_line hrest
        | cons q pieces =>
            rw [List.flatMap_cons, List.append_assoc]
            exact Piece.fits_of_joins (hwell q List.mem_cons_self)
              (List.isChain_cons_cons.1 hjoins).1
      obtain ⟨first, place₁, hfirst, hscan₁⟩ := scanFrom_piece hp hfits place line afterBreak
      obtain ⟨tokens, place₂, htokens, hscan₂⟩ :=
        ih hwell hjoins.tail place₁ (afterBreak && p.sign?.isNone)
      refine ⟨first ++ tokens, place₂, ?_, ?_⟩
      · have hboth := hfirst.append htokens
        cases hsign : p.sign? <;> simpa [hsign] using hboth
      · rw [List.flatMap_cons, List.append_assoc, hscan₁, hscan₂]
        cases hsign : p.sign? <;> simp [Scan.prepend, hsign]

/-- Parts that may stand next to each other make a line that is scanned to their signs. -/
theorem scans_pieces {pieces : List Piece} (hwell : ∀ p ∈ pieces, p.WellFormed)
    (hjoins : pieces.IsChain fun p q => p.joins q = true) :
    Scans (pieces.flatMap Piece.chars) (pieces.filterMap Piece.sign?) := by
  intro e place line afterBreak rest hrest
  have hline : ∀ x ∈ pieces.flatMap Piece.chars, x ≠ '\n' := by
    intro x hx
    obtain ⟨p, hp, hx⟩ := List.mem_flatMap.1 hx
    exact Piece.newline_not_mem_chars (hwell p hp) x hx
  obtain ⟨tokens, place', htokens, hscan⟩ :=
    scanFrom_pieces hwell hjoins hrest place line afterBreak
  rw [e.respellChars_of_ne _ hline]
  exact ⟨tokens, place', line, htokens, hscan⟩

/-- A blank in front is passed over. -/
theorem Scans.blank {cs : List Char} {signs : List Sign} (h : Scans cs signs) :
    Scans (' ' :: cs) signs := by
  intro e place line afterBreak rest hrest
  obtain ⟨tokens, place', line', htokens, hscan⟩ := h e (place + 1) line afterBreak rest hrest
  refine ⟨tokens, place', line', htokens, ?_⟩
  rw [← hscan, e.respellChars_cons_of_ne (by decide)]
  simp [scanFrom, lexeme, Scan.push]

theorem scans_nil : Scans [] [] :=
  fun _ place line _ _ _ =>
    ⟨[], place, line, shows_nil, by simp [LineEnd.respellChars, Scan.prepend]⟩

/-- A carriage return is passed over like a blank. -/
theorem scanFrom_return (place line : Nat) (afterBreak : Bool) (rest : List Char) :
    scanFrom 0 place line afterBreak ('\r' :: rest) =
      scanFrom 0 (place + 1) line afterBreak rest := by
  simp [scanFrom, lexeme, Scan.push]

/-- A line comment is scanned to its words. -/
theorem scans_comment {words : List Char} (hwords : ∀ x ∈ words, x ≠ '\n') :
    Scans ('/' :: '/' :: words) [.comment (String.ofList (trimChars words))] := by
  intro e place line afterBreak rest hrest
  have hcomment : ∀ words rest : List Char, (∀ x ∈ words, x ≠ '\n') →
      EndsBefore (· != '\n') rest → ∃ tokens,
        Shows tokens [.comment (String.ofList (trimChars words))] ∧
          scanFrom 0 place line afterBreak ('/' :: '/' :: words ++ rest) =
            (scanFrom 0 (place + 1 + (words.length + 1)) line false rest).prepend tokens := by
    intro words rest hwords hrest
    refine @scanFrom_token '/' ('/' :: words) rest _ _ (by decide) ?_ place line afterBreak
    rw [lexeme_comment hwords hrest, List.length_cons]
    congr 1
    omega
  rw [e.respellChars_of_ne _ (by simpa using hwords)]
  rcases hrest with rfl | ⟨_ | _, more, rfl⟩
  · obtain ⟨tokens, htokens, hscan⟩ := hcomment words [] hwords (by simp [EndsBefore])
    exact ⟨tokens, _, line, htokens, by simpa using hscan⟩
  · obtain ⟨tokens, htokens, hscan⟩ := hcomment words ('\n' :: more) hwords (by simp [EndsBefore])
    exact ⟨tokens, _, line, htokens, by simpa [LineEnd.chars] using hscan⟩
  · -- the comment takes the return along, which is trimmed off its words
    obtain ⟨tokens, htokens, hscan⟩ := hcomment (words ++ ['\r']) ('\n' :: more)
      (by simpa [or_imp, forall_and] using hwords) (by simp [EndsBefore])
    rw [trimChars_concat_of_blank (by decide)] at htokens
    refine ⟨tokens, place + 1 + (words.length + 1), line, htokens, ?_⟩
    simpa [LineEnd.chars, scanFrom_return, Nat.add_assoc] using hscan

/-- No comment is opened or ended where lines end. -/
theorem LineEnd.quiet_respellChars (e : LineEnd) {cs : List Char} (h : cs.IsChain Quiet) :
    (e.respellChars cs).IsChain Quiet := by
  induction cs with
  | nil => exact .nil
  | cons c cs ih =>
      obtain ⟨hc, hcs⟩ := List.isChain_cons.1 h
      have hrest := ih hcs
      by_cases hline : c = '\n'
      · subst hline
        rw [e.respellChars_cons_newline]
        cases e <;> simpa [LineEnd.chars, List.isChain_cons, Quiet] using hrest
      · rw [e.respellChars_cons_of_ne hline, List.isChain_cons]
        refine ⟨fun y hy => ?_, hrest⟩
        cases cs with
        | nil => simp [LineEnd.respellChars] at hy
        | cons d cs =>
            by_cases hd : d = '\n'
            · subst hd
              cases e <;> simp [LineEnd.respellChars, LineEnd.chars] at hy <;> simp [← hy, Quiet]
            · rw [e.respellChars_cons_of_ne hd] at hy
              exact hc y hy

/-- A block comment whose words open and end none is passed over. -/
theorem scans_block_comment {words : List Char} (hwords : (words ++ ['*']).IsChain Quiet) :
    Scans ('/' :: '*' :: words ++ ['*', '/']) [] := by
  intro e place line afterBreak rest _
  have hrespelled : e.respellChars ('/' :: '*' :: words ++ ['*', '/']) =
      '/' :: '*' :: e.respellChars words ++ ['*', '/'] := by
    rw [e.respellChars_append, e.respellChars_cons_of_ne (by decide),
      e.respellChars_cons_of_ne (by decide), e.respellChars_of_ne ['*', '/'] (by simp)]
  have hquiet : (e.respellChars words ++ ['*']).IsChain Quiet := by
    have hall := e.quiet_respellChars hwords
    rwa [e.respellChars_append, e.respellChars_of_ne ['*'] (by simp)] at hall
  rw [hrespelled]
  generalize e.respellChars words = words at hquiet
  obtain ⟨breaks, hlexeme⟩ := @lexeme_block_comment words rest hquiet
  refine ⟨[], place + 1 + ('*' :: words ++ ['*', '/']).length, line + breaks, shows_nil, ?_⟩
  have htext : '/' :: '*' :: words ++ ['*', '/'] ++ rest =
      '/' :: ('*' :: words ++ ['*', '/'] ++ rest) := rfl
  have hinside : '*' :: words ++ '*' :: '/' :: rest = '*' :: words ++ ['*', '/'] ++ rest := by simp
  rw [hinside] at hlexeme
  rw [htext, scanFrom, hlexeme]
  have hlength : words.length + 4 - 1 = ('*' :: words ++ ['*', '/']).length := by
    simp
  simp only [hlength, scanFrom_skip, List.isEmpty_nil, Bool.and_true, Option.map_none]
  rfl

/-- The signs of lines that each end in a line break, where neighbouring breaks are one. -/
def lineSigns (afterBreak : Bool) : List (List Sign) → List Sign
  | [] => []
  | signs :: rest =>
    signs ++ (if afterBreak && signs.isEmpty then [] else [.newline]) ++ lineSigns true rest

theorem scanFrom_newline (place line : Nat) (afterBreak : Bool) (rest : List Char) :
    ∃ tokens, Shows tokens (if afterBreak then [] else [Sign.newline]) ∧
      scanFrom 0 place line afterBreak ('\n' :: rest) =
        (scanFrom 0 (place + 1) (line + 1) true rest).prepend tokens := by
  cases afterBreak with
  | false =>
      refine ⟨[⟨.newline, "\n", line, place, place + 1, false⟩], ⟨rfl, by simp⟩, ?_⟩
      simp [scanFrom, lexeme, Scan.push, Scan.prepend]
  | true =>
      refine ⟨[], shows_nil, ?_⟩
      simp [scanFrom, lexeme, Scan.push, Scan.prepend]

/-- The end of a line is scanned to a line break. -/
theorem scanFrom_lineEnd (e : LineEnd) (place line : Nat) (afterBreak : Bool) (rest : List Char) :
    ∃ tokens place', Shows tokens (if afterBreak then [] else [Sign.newline]) ∧
      scanFrom 0 place line afterBreak (e.chars ++ rest) =
        (scanFrom 0 place' (line + 1) true rest).prepend tokens := by
  cases e with
  | feed =>
      obtain ⟨tokens, htokens, hscan⟩ := scanFrom_newline place line afterBreak rest
      exact ⟨tokens, _, htokens, hscan⟩
  | returned =>
      obtain ⟨tokens, htokens, hscan⟩ := scanFrom_newline (place + 1) line afterBreak rest
      exact ⟨tokens, _, htokens, (scanFrom_return place line afterBreak _).trans hscan⟩

/-- Lines that are scanned to signs make a text that is scanned to the signs of the lines. -/
theorem scan_lines {texts : List (List Char)} {signs : List (List Sign)}
    (h : List.Forall₂ Scans texts signs) (e : LineEnd) (place line : Nat) (afterBreak : Bool) :
    ∃ tokens, Shows tokens (lineSigns afterBreak signs) ∧
      scanFrom 0 place line afterBreak (e.respellChars (texts.flatMap (· ++ ['\n']))) =
        ⟨tokens, []⟩ := by
  induction h generalizing place line afterBreak with
  | nil => exact ⟨[], shows_nil, rfl⟩
  | @cons text signs texts more hscans _ ih =>
      -- the line is scanned to its signs, then its end, and then the other lines
      have htext : e.respellChars ((text :: texts).flatMap (· ++ ['\n'])) =
          e.respellChars text ++ (e.chars ++ e.respellChars (texts.flatMap (· ++ ['\n']))) := by
        simp
      obtain ⟨first, place₁, line₁, hfirst, hscan₁⟩ :=
        hscans e place line afterBreak (e.chars ++ e.respellChars (texts.flatMap (· ++ ['\n'])))
          (.inr ⟨e, _, rfl⟩)
      obtain ⟨second, place₂, hsecond, hscan₂⟩ := scanFrom_lineEnd e place₁ line₁
        (afterBreak && signs.isEmpty) (e.respellChars (texts.flatMap (· ++ ['\n'])))
      obtain ⟨tokens, htokens, hscan₃⟩ := ih place₂ (line₁ + 1) true
      refine ⟨first ++ (second ++ tokens), ?_, ?_⟩
      · rw [lineSigns, List.append_assoc]
        exact hfirst.append (hsecond.append htokens)
      · rw [htext, hscan₁, hscan₂, hscan₃]
        simp [Scan.prepend]

end BuildGraph.Script
