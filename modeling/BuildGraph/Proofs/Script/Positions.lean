import BuildGraph.Proofs.Script.Joined

/-!
# Where the tokens of a text stand

`TokenText` gives, for each kind of token, the characters it is read from and the value it gets, and
`Takes` what one lexeme takes off the front of a text. From the two, `Laid` describes the tokens
from a place of the text on: each stands behind the one before it, and its line counts the line
breaks before it. Only the breaks inside of quoted literals are not counted, and these stand in
escapes: `scan_placed`.
-/

namespace BuildGraph.Script

open BuildGraph.Text BuildGraph.Number

variable {quote c : Char} {cs front rest text value : List Char} {kind : TokenKind}

section Spelling

/-- What stands in a quoted literal behind its first quote: escapes, and characters other than line
breaks. A backslash that starts no escape is the last character of the text. -/
inductive Inside : List Char → Prop
  | nil : Inside []
  | numbered {w x y z number : Char} {rest : List Char} :
      numberedChar? w x y z = some number → Inside rest →
      Inside ('\\' :: 'u' :: w :: x :: y :: z :: rest)
  | escaped (c : Char) {rest : List Char} : Inside rest → Inside ('\\' :: c :: rest)
  | plain {c : Char} {rest : List Char} :
      c ≠ '\n' → (c = '\\' → rest = []) → Inside rest → Inside (c :: rest)

/-- Without an escape, what stands in a quoted literal stays within a line. -/
theorem Inside.newline_not_mem (h : Inside cs) (hescape : '\\' ∉ cs) : '\n' ∉ cs := by
  induction h with
  | nil => simp
  | numbered => simp at hescape
  | escaped => simp at hescape
  | plain hbreak _ _ ih =>
      rw [List.mem_cons, not_or] at hescape ⊢
      exact ⟨hbreak.symm, ih hescape.2⟩

/-- The three quotes that open a raw string. -/
def rawMark : List Char := ['"', '"', '"']

/-- Whether a token is a quoted literal, so a string and none that three quotes open. -/
def isQuoted (kind : TokenKind) (front : List Char) : Bool :=
  kind == .string && !rawMark.isPrefixOf front

theorem isQuoted_rawMark (cs : List Char) : isQuoted .string (rawMark ++ cs) = false := by
  simp [isQuoted]

/-- How a token is spelled: its kind, its value and the characters it spans. -/
inductive TokenText : TokenKind → List Char → List Char → Prop
  | newline : TokenText .newline ['\n'] ['\n']
  | comment {words : List Char} :
      '\n' ∉ words → TokenText .comment (trimChars words) ('/' :: '/' :: words)
  | raw {body closing : List Char} : closing = [] ∨ closing = rawMark →
      TokenText .string body (rawMark ++ (body ++ closing))
  | quoted (value : List Char) {quote : Char} {inside : List Char} : IsQuote quote →
      ¬ rawMark <+: quote :: inside → Inside inside → TokenText .string value (quote :: inside)
  | word {c : Char} {tail : List Char} : isLetter c = true ∨ c = '_' →
      (∀ x ∈ tail, isWordChar x = true) → TokenText .ident (c :: tail) (c :: tail)
  | ticked {name : List Char} : '\x60' ∉ name → '\n' ∉ name →
      TokenText .ident name ('\x60' :: (name ++ ['\x60']))
  | number {c : Char} {tail : List Char} : isDigit c = true →
      (∀ x ∈ tail, isWordChar x = true ∨ x = '.') → TokenText .number (c :: tail) (c :: tail)
  | op {mark : List Char} : mark ∈ operators → TokenText .op mark mark

/-- A line break or a backtick stands in no word, number and operator. -/
theorem not_mem_word {x : Char} (hx : x = '\n' ∨ x = '\x60') : isLetter x = false ∧ x ≠ '_' ∧
    isDigit x = false ∧ isWordChar x = false ∧ x ≠ '.' ∧ ∀ op ∈ operators, x ∉ op := by
  rcases hx with rfl | rfl
  all_goals simp [isLetter_ascii, isDigit_ascii, isWordChar_ascii, isIdentifierChar, operators_eq]

/-- What an identifier, a number or an operator denotes has neither. -/
theorem TokenText.not_mem_value (h : TokenText kind value front)
    (hkind : kind ∈ [.ident, .number, .op]) {x : Char} (hx : x = '\n' ∨ x = '\x60') :
    x ∉ value := by
  obtain ⟨hletter, hline, hdigit, hword, hpoint, hmarks⟩ := not_mem_word hx
  cases h with
  | newline | comment _ | raw _ | quoted _ => simp at hkind
  | word hfirst htail =>
      rw [List.mem_cons, not_or]
      refine ⟨?_, fun hmem => Bool.false_ne_true (hword.symm.trans (htail x hmem))⟩
      rintro rfl
      simp [hletter, hline] at hfirst
  | ticked htick hbreak =>
      rcases hx with rfl | rfl
      · exact hbreak
      · exact htick
  | number hfirst htail =>
      rw [List.mem_cons, not_or]
      refine ⟨?_, fun hmem => by simpa [hword, hpoint] using htail x hmem⟩
      rintro rfl
      exact Bool.false_ne_true (hdigit.symm.trans hfirst)
  | op hmark => exact hmarks _ hmark

/-- An identifier, a number or an operator is its value, or stands between backticks. -/
theorem TokenText.verbatim (h : TokenText kind value front)
    (hkind : kind ∈ [.ident, .number, .op]) :
    front = value ∨ kind = .ident ∧ front = '\x60' :: (value ++ ['\x60']) := by
  cases h with
  | newline | comment _ | raw _ | quoted _ => simp at hkind
  | word _ _ | number _ _ | op _ => exact .inl rfl
  | ticked _ _ => exact .inr ⟨rfl, rfl⟩

/-- A quoted literal is what stands inside of it behind its quote. -/
theorem TokenText.inside (h : TokenText kind value front) (hquoted : isQuoted kind front = true) :
    ∃ quote inside, front = quote :: inside ∧ IsQuote quote ∧ Inside inside := by
  cases h with
  | raw _ => exact absurd (isQuoted_rawMark _ ▸ hquoted) Bool.false_ne_true
  | quoted _ hquote _ hinside => exact ⟨_, _, rfl, hquote, hinside⟩
  | newline | comment _ | word _ _ | ticked _ _ | number _ _ | op _ => simp [isQuoted] at hquoted

/-- Only a line break and a string literal span line breaks. -/
theorem TokenText.newline_not_mem (h : TokenText kind value front) (hbreak : kind ≠ .newline)
    (hstring : kind ≠ .string) : '\n' ∉ front := by
  by_cases hcomment : kind = .comment
  · subst hcomment
    cases h with
    | comment hwords => simpa using hwords
  · have hkind : kind ∈ [.ident, .number, .op] := by
      cases kind <;> simp_all
    have hvalue := h.not_mem_value hkind (.inl rfl)
    rcases h.verbatim hkind with rfl | ⟨-, rfl⟩
    · exact hvalue
    · simpa using hvalue

end Spelling

section Lexemes

/-- The line breaks that are not counted in what a token spans: those inside of a quoted literal. -/
def hiddenBreaks (kind : TokenKind) (front : List Char) : Nat :=
  if isQuoted kind front then front.count '\n' else 0

/-- The line breaks that are not counted in a lexeme. -/
def Lexeme.hidden (found : Lexeme) (front : List Char) : Nat :=
  found.token.elim 0 fun (kind, _, _) => hiddenBreaks kind front

/-- What a lexeme takes off the front of a text. -/
structure Lexeme.Takes (found : Lexeme) (cs : List Char) : Prop where
  pos : 0 < found.length
  le : found.length ≤ cs.length
  spelled : ∀ kind value template, found.token = some (kind, value, template) →
    TokenText kind value (cs.take found.length)
  breaks : found.breaks + found.hidden (cs.take found.length) = (cs.take found.length).count '\n'

/-- A lexeme takes the characters at the front of a text if it takes so many, and they spell its
token and hold the line breaks that it counts. -/
theorem Lexeme.takes_append {found : Lexeme} (front : List Char) (hfront : front ≠ [])
    (hlength : found.length = front.length)
    (hspelled : ∀ kind value template, found.token = some (kind, value, template) →
      TokenText kind value front)
    (hbreaks : found.breaks + found.hidden front = front.count '\n') (rest : List Char) :
    found.Takes (front ++ rest) := by
  have htake : (front ++ rest).take found.length = front := hlength ▸ List.take_left
  exact {
    pos := hlength ▸ List.length_pos_of_ne_nil hfront
    le := by simp [hlength]
    spelled := htake.symm ▸ hspelled
    breaks := htake.symm ▸ hbreaks }

/-- A token other than a line break and a string literal takes the characters that spell it. -/
theorem TokenText.takes (h : TokenText kind value front) (hfront : front ≠ [])
    (hbreak : kind ≠ .newline) (hstring : kind ≠ .string) (length : Nat)
    (hlength : length = front.length) (template : Bool) (rest : List Char) :
    Lexeme.Takes { length, token := some (kind, value, template) } (front ++ rest) := by
  refine Lexeme.takes_append front hfront hlength ?_ ?_ rest
  · rintro _ _ _ ⟨⟩
    exact h
  · have hcount : front.count '\n' = 0 :=
      List.count_eq_zero_of_not_mem (h.newline_not_mem hbreak hstring)
    simp [Lexeme.hidden, hiddenBreaks, hcount]

/-- A character that makes no token is passed over. -/
theorem takes_single (hc : c ≠ '\n') (fault : Option LexicalFault) (rest : List Char) :
    Lexeme.Takes { length := 1, fault } (c :: rest) := by
  refine Lexeme.takes_append [c] (by simp) rfl (by simp) ?_ rest
  simp [Lexeme.hidden, hc]

theorem length_commentLength_le (depth : Nat) (cs : List Char) :
    (commentLength depth cs).1 ≤ cs.length := by
  fun_induction commentLength depth cs with
  | case1 => simp
  | case2 depth rest n closed hread ih => simpa [hread] using ih
  | case3 => simp
  | case4 depth rest _ n closed hread ih => simpa [hread] using ih
  | case5 depth c rest _ _ n closed hread ih => simpa [hread] using ih

theorem blockComment_takes (rest : List Char) :
    (blockComment ('/' :: '*' :: rest)).Takes ('/' :: '*' :: rest) where
  pos := by simp [blockComment, commentLength]
  le := length_commentLength_le 0 ('/' :: '*' :: rest)
  spelled := by simp [blockComment]
  breaks := by simp [blockComment, Lexeme.hidden]

/-- What is read of a raw string stands in front of its closing quotes, or is all of the text. -/
theorem rawBody_append (cs : List Char) : ∃ closing rest, cs = (rawBody cs).1 ++ (closing ++ rest) ∧
    closing = if (rawBody cs).2 then rawMark else [] := by
  fun_induction rawBody cs with
  | case1 => exact ⟨[], [], rfl, rfl⟩
  | case2 rest =>
      -- the inside is made of quotes too, so it may change places with the closing ones
      refine ⟨rawMark, rest.dropWhile (· == '"'), ?_, rfl⟩
      obtain ⟨n, hquotes⟩ : ∃ n, rest.takeWhile (· == '"') = List.replicate n '"' := by
        refine ⟨_, List.eq_replicate_iff.2 ⟨rfl, fun x hx => ?_⟩⟩
        simpa using List.mem_takeWhile_imp hx
      have hrest : rest = List.replicate n '"' ++ rest.dropWhile (· == '"') :=
        hquotes ▸ (List.takeWhile_append_dropWhile).symm
      have hmark : rawMark = List.replicate 3 '"' := rfl
      have hswap : List.replicate n '"' ++ rawMark = rawMark ++ List.replicate n '"' := by
        rw [hmark, List.replicate_append_replicate, List.replicate_append_replicate, Nat.add_comm]
      rw [hquotes, ← List.append_assoc, hswap, List.append_assoc, ← hrest]
      rfl
  | case3 c rest _ body closed hread ih =>
      rw [hread] at ih
      obtain ⟨closing, more, hrest, hclosing⟩ := ih
      exact ⟨closing, more, by rw [List.cons_append, ← hrest], hclosing⟩

theorem rawString_takes (rest : List Char) : (rawString rest).Takes (rawMark ++ rest) := by
  obtain ⟨closing, more, hrest, hclosing⟩ := rawBody_append rest
  have htext : rawMark ++ rest = rawMark ++ ((rawBody rest).1 ++ closing) ++ more := by
    rw [List.append_assoc, List.append_assoc, ← hrest]
  have hbreaks : closing.count '\n' = 0 := by
    rw [hclosing]
    split <;> rfl
  have hlength : closing.length = if (rawBody rest).2 then 3 else 0 := by
    rw [hclosing]
    split <;> rfl
  rw [htext]
  refine Lexeme.takes_append _ (by simp [rawMark]) ?_ ?_ ?_ more
  · simp [rawString, rawMark, hlength]
    omega
  · rintro _ _ _ ⟨⟩
    refine .raw ?_
    rw [hclosing]
    split
    · exact .inr rfl
    · exact .inl rfl
  · have hmark : rawMark.count '\n' = 0 := rfl
    simp [rawString, Lexeme.hidden, hiddenBreaks, isQuoted_rawMark, hbreaks, hmark]

/-- What is read of a literal stands at the front of the text. -/
theorem bodyOf_inside (quote : Char) (hquote : IsQuote quote) (cs : List Char) :
    (bodyOf quote cs).length ≤ cs.length ∧ Inside (cs.take (bodyOf quote cs).length) := by
  fun_induction bodyOf quote cs with
  | case1 => exact ⟨le_rfl, .nil⟩
  | case2 w x y z rest number hnumber ih =>
      exact ⟨Nat.add_le_add_right ih.1 6, .numbered hnumber ih.2⟩
  | case3 w x y z rest _ ih => exact ⟨Nat.add_le_add_right ih.1 2, .escaped 'u' ih.2⟩
  | case4 c rest _ ih => exact ⟨Nat.add_le_add_right ih.1 2, .escaped c ih.2⟩
  | case5 rest =>
      refine ⟨by simp, .plain ?_ (fun _ => rfl) .nil⟩
      rcases hquote with rfl | rfl <;> decide
  | case6 => exact ⟨Nat.zero_le _, .nil⟩
  | case7 c rest _ hescaped _ hbreak body _ ih =>
      refine ⟨Nat.add_le_add_right ih.1 1, .plain hbreak (fun hc => ?_) ih.2⟩
      cases rest with
      | nil => rfl
      | cons x tail => exact (hescaped x tail hc rfl).elim

theorem quotedString_takes (hquote : IsQuote quote) (hraw : ¬ rawMark <+: quote :: rest) :
    (quotedString quote rest).Takes (quote :: rest) := by
  obtain ⟨hle, hinside⟩ := bodyOf_inside quote hquote rest
  have htext : quote :: rest = (quote :: rest.take (bodyOf quote rest).length) ++
      rest.drop (bodyOf quote rest).length := by
    rw [List.cons_append, List.take_append_drop]
  have hmark : ¬ rawMark <+: quote :: rest.take (bodyOf quote rest).length :=
    fun hfront => hraw (htext ▸ hfront.trans (List.prefix_append _ _))
  rw [htext]
  refine Lexeme.takes_append _ (by simp) ?_ ?_ ?_ _
  · simp [quotedString, hle, Nat.add_comm]
  · rintro _ _ _ ⟨⟩
    exact .quoted _ hquote hmark hinside
  · have hquoted : isQuoted .string (quote :: rest.take (bodyOf quote rest).length) = true := by
      simpa [isQuoted, ← List.isPrefixOf_iff_prefix] using hmark
    simp [quotedString, Lexeme.hidden, hiddenBreaks, hquoted]

theorem tickedIdentifier_takes (rest : List Char) :
    (tickedIdentifier rest).Takes ('\x60' :: rest) := by
  rw [tickedIdentifier]
  set name := rest.takeWhile fun c => c != '\x60' && c != '\n' with hname
  have hall : ∀ x ∈ name, x ≠ '\x60' ∧ x ≠ '\n' :=
    fun x hx => by simpa using List.mem_takeWhile_imp hx
  obtain ⟨behind, hrest⟩ : name <+: rest := List.takeWhile_prefix _
  have hdrop : rest.drop name.length = behind := by rw [← hrest, List.drop_left]
  split_ifs with htick
  · obtain ⟨more, hmore⟩ := List.head?_eq_some_iff.1 (hdrop ▸ htick)
    have htext : '\x60' :: rest = '\x60' :: (name ++ ['\x60']) ++ more := by
      rw [← hrest, hmore, List.cons_append, List.append_assoc, List.singleton_append]
    rw [htext]
    exact (TokenText.ticked (fun h => (hall _ h).1 rfl) fun h => (hall _ h).2 rfl).takes (by simp)
      (by decide) (by decide) _ (by simp) false more
  · exact takes_single (by decide) _ _

theorem numberTail_prefix (cs : List Char) :
    numberTail cs <+: cs ∧ ∀ x ∈ numberTail cs, isWordChar x = true ∨ x = '.' := by
  fun_induction numberTail cs with
  | case1 => simp
  | case2 d rest _ ih => exact ⟨List.cons_prefix_cons.2 ⟨rfl, ih.1⟩, by simpa using ih.2⟩
  | case3 => simp
  | case4 => simp
  | case5 c rest _ hc ih => exact ⟨List.cons_prefix_cons.2 ⟨rfl, ih.1⟩, by simpa [hc] using ih.2⟩
  | case6 => simp

/-- What stands at a place takes its characters off the front of the text. -/
theorem lexeme_takes (c : Char) (rest : List Char) : (lexeme c rest).Takes (c :: rest) := by
  rw [lexeme]
  split_ifs with hbreak hblank hcomment hblock hraw hquote hword htick hnumber
  · subst hbreak
    refine Lexeme.takes_append ['\n'] (by simp) rfl ?_ rfl rest
    rintro _ _ _ ⟨⟩
    exact .newline
  · exact takes_single hbreak _ _
  · simp only [Bool.and_eq_true, decide_eq_true_eq, beq_iff_eq] at hcomment
    obtain ⟨rfl, hslash⟩ := hcomment
    obtain ⟨tail, rfl⟩ := List.head?_eq_some_iff.1 hslash
    obtain ⟨behind, htail⟩ := List.takeWhile_prefix (l := tail) (· != '\n')
    have hwords : '\n' ∉ tail.takeWhile (· != '\n') :=
      fun h => by simpa using List.mem_takeWhile_imp h
    have htaken := (TokenText.comment hwords).takes (by simp) (by decide) (by decide)
      (2 + (tail.takeWhile (· != '\n')).length) (by simp only [List.length_cons]; omega) false
      behind
    rwa [List.cons_append, List.cons_append, htail] at htaken
  · simp only [Bool.and_eq_true, decide_eq_true_eq, beq_iff_eq] at hblock
    obtain ⟨rfl, hstar⟩ := hblock
    obtain ⟨tail, rfl⟩ := List.head?_eq_some_iff.1 hstar
    exact blockComment_takes tail
  · simp only [Bool.and_eq_true, decide_eq_true_eq, beq_iff_eq] at hraw
    obtain ⟨rfl, hmark⟩ := hraw
    obtain ⟨tail, rfl⟩ : ['"', '"'] <+: rest := hmark ▸ List.take_prefix 2 rest
    exact rawString_takes tail
  · refine quotedString_takes (by simpa [IsQuote] using hquote) ?_
    rintro ⟨tail, htail⟩
    obtain ⟨rfl, rfl⟩ := List.cons.inj htail
    simp at hraw
  · obtain ⟨behind, htail⟩ := List.takeWhile_prefix (l := rest) isWordChar
    have hspelled := TokenText.word (by simpa using hword) fun x hx =>
      List.mem_takeWhile_imp (l := rest) hx
    have htaken := hspelled.takes (by simp) (by decide) (by decide)
      (1 + (rest.takeWhile isWordChar).length) (by simp [Nat.add_comm]) false behind
    rwa [List.cons_append, htail] at htaken
  · exact htick ▸ tickedIdentifier_takes rest
  · obtain ⟨⟨behind, htail⟩, hall⟩ := numberTail_prefix rest
    have htaken := (TokenText.number hnumber hall).takes (by simp) (by decide) (by decide)
      (1 + (numberTail rest).length) (by simp [Nat.add_comm]) false behind
    rwa [List.cons_append, htail] at htaken
  · split
    · next op hop =>
        have hmem : op ∈ operators := List.mem_of_find?_eq_some hop
        have hfits := List.find?_some (p := fun op : List Char => op.isPrefixOf (c :: rest)) hop
        obtain ⟨behind, htail⟩ := List.isPrefixOf_iff_prefix.1 hfits
        have hne : op ≠ [] := by
          rintro rfl
          simp [operators_eq] at hmem
        have htaken := (TokenText.op hmem).takes hne (by decide) (by decide) _ rfl false behind
        rwa [htail] at htaken
    · exact takes_single hbreak _ _

end Lexemes

section Positions

variable {text : List Char} {skip place line hidden : Nat} {afterBreak : Bool} {t : Token}
  {ts : List Token}

/-- The characters of a text that a token spans. -/
def Token.span (text : List Char) (t : Token) : List Char := (text.take t.stop).drop t.start

/-- The line breaks of a text before a place. -/
def breaksBefore (text : List Char) (place : Nat) : Nat := (text.take place).count '\n'

/-- The tokens of a text from one of its places on. Before the place, `hidden` line breaks are not
counted, and `afterBreak` tells that the last token was a line break. -/
inductive Laid (text : List Char) : Nat → Nat → Bool → List Token → Prop
  | nil (place hidden : Nat) (afterBreak : Bool) : Laid text place hidden afterBreak []
  | cons {place hidden : Nat} {afterBreak : Bool} {t : Token} {ts : List Token} :
      place ≤ t.start → t.start < t.stop → t.stop ≤ text.length →
      TokenText t.kind t.value.toList (t.span text) →
      t.line + hidden = 1 + breaksBefore text t.start →
      (t.kind == .newline && afterBreak) = false →
      Laid text t.stop (hidden + hiddenBreaks t.kind (t.span text)) (t.kind == .newline) ts →
      Laid text place hidden afterBreak (t :: ts)

/-- Tokens from a place on are the tokens from an earlier place on if nothing stands between. -/
theorem Laid.sooner {sooner : Nat} (h : Laid text place hidden afterBreak ts)
    (hle : sooner ≤ place) : Laid text sooner hidden afterBreak ts := by
  cases h with
  | nil => exact .nil sooner hidden afterBreak
  | cons hplace hpos hstop hspelled hline hbreak hrest =>
      exact .cons (hle.trans hplace) hpos hstop hspelled hline hbreak hrest

theorem breaksBefore_add (text : List Char) (place count : Nat) :
    breaksBefore text (place + count) =
      breaksBefore text place + ((text.drop place).take count).count '\n' := by
  rw [breaksBefore, breaksBefore, List.take_add, List.count_append]

/-- A lexeme stands in front of the tokens behind it. -/
theorem Laid.lexeme {found : Lexeme} (hfound : found.Takes (text.drop place))
    (hline : line + hidden = 1 + breaksBefore text place)
    (h : Laid text (place + found.length)
      (hidden + found.hidden ((text.drop place).take found.length)) (found.breaks? afterBreak) ts) :
    Laid text place hidden afterBreak ((found.token? place line afterBreak).toList ++ ts) := by
  rw [Lexeme.breaks?, Lexeme.hidden] at h
  rw [Lexeme.token?]
  cases hmade : found.token with
  | none =>
      rw [hmade] at h
      exact h.sooner (Nat.le_add_right _ _)
  | some made =>
      obtain ⟨kind, value, template⟩ := made
      rw [hmade] at h
      have hspelled := hfound.spelled kind value template hmade
      dsimp only
      split_ifs with hbreak
      · -- a line break behind another one makes no token
        rw [Bool.and_eq_true, beq_iff_eq] at hbreak
        obtain ⟨rfl, rfl⟩ := hbreak
        exact h.sooner (Nat.le_add_right _ _)
      · have hspan : ((text.take (place + found.length)).drop place) =
            (text.drop place).take found.length := by
          rw [List.drop_take, Nat.add_sub_cancel_left]
        have hle := hfound.le
        rw [List.length_drop] at hle
        refine .cons le_rfl (Nat.lt_add_of_pos_right hfound.pos) ?_ ?_ hline
          (by simpa using hbreak) ?_
        · have hpos := hfound.pos
          dsimp only
          omega
        · simpa [Token.span, hspan] using hspelled
        · simpa [Token.span, hspan] using h

/-- The scan of a text from a place on gives the tokens from the place on. -/
theorem laid_scanFrom (hcs : text.drop place = cs) (hskip : skip ≤ cs.length)
    (hline : line + hidden = 1 + breaksBefore text (place + skip)) :
    Laid text (place + skip) hidden afterBreak (scanFrom skip place line afterBreak cs).tokens := by
  induction cs generalizing skip place line hidden afterBreak with
  | nil => exact .nil _ _ _
  | cons c cs ih =>
      have hrest : text.drop (place + 1) = cs := by
        rw [← List.tail_drop, hcs, List.tail_cons]
      cases skip with
      | succ more =>
          rw [scanFrom, Nat.add_comm more, ← Nat.add_assoc]
          refine ih hrest (Nat.le_of_succ_le_succ hskip) ?_
          rw [hline, Nat.add_comm more, Nat.add_assoc]
      | zero =>
          rw [Nat.add_zero] at hline ⊢
          have hfound := lexeme_takes c cs
          have hbehind : place + 1 + ((lexeme c cs).length - 1) = place + (lexeme c cs).length := by
            have := hfound.pos
            omega
          rw [scanFrom_lexeme]
          refine Laid.lexeme (hcs.symm ▸ hfound) hline ?_
          rw [← hbehind]
          refine ih hrest (Nat.sub_le_of_le_add hfound.le) ?_
          rw [hbehind, breaksBefore_add, hcs, ← hfound.breaks]
          omega

/-- Tokens from a place on stand within the text behind it. -/
theorem Laid.within (h : Laid text place hidden afterBreak ts) :
    ∀ t ∈ ts, place ≤ t.start ∧ t.start < t.stop ∧ t.stop ≤ text.length ∧
      TokenText t.kind t.value.toList (t.span text) := by
  induction h with
  | nil => simp
  | cons hplace hpos hstop hspelled _ _ _ ih =>
      refine List.forall_mem_cons.2 ⟨⟨hplace, hpos, hstop, hspelled⟩, fun u hu => ?_⟩
      obtain ⟨hstart, hu⟩ := ih u hu
      exact ⟨by omega, hu⟩

theorem Laid.ordered (h : Laid text place hidden afterBreak ts) :
    ts.Pairwise fun t u => t.stop ≤ u.start := by
  induction h with
  | nil => exact .nil
  | cons _ _ _ _ _ _ hrest ih => exact .cons (fun u hu => (hrest.within u hu).1) ih

theorem Laid.apart (h : Laid text place hidden afterBreak ts) :
    ts.IsChain fun t u => ¬ (t.kind = .newline ∧ u.kind = .newline) := by
  induction h with
  | nil => exact .nil
  | @cons _ _ _ t ts _ _ _ _ _ _ hrest ih =>
      refine List.isChain_cons.2 ⟨fun u hu => ?_, ih⟩
      cases hrest with
      | nil => cases hu
      | cons _ _ _ _ _ hbreak _ =>
          cases hu
          rintro ⟨ht, hu⟩
          simp [ht, hu] at hbreak

/-- The line of a token counts the line breaks before it that are not hidden. -/
theorem Laid.counts (h : Laid text place hidden afterBreak ts) {before after : List Token}
    (hts : ts = before ++ t :: after) :
    t.line + (hidden + (before.map fun u => hiddenBreaks u.kind (u.span text)).sum) =
      1 + breaksBefore text t.start := by
  induction h generalizing before with
  | nil => simp at hts
  | cons _ _ _ _ hline _ _ ih =>
      cases before with
      | nil =>
          obtain ⟨rfl, -⟩ := List.cons.inj hts
          simpa using hline
      | cons u before =>
          obtain ⟨rfl, hrest⟩ := List.cons.inj hts
          rw [← ih hrest, List.map_cons, List.sum_cons, Nat.add_assoc]

/-- Where the tokens of a text stand, and which of its characters they are. -/
structure Placed (text : String) (tokens : List Token) : Prop where
  /-- A token spans a part of the text that is not empty. -/
  within : ∀ t ∈ tokens, t.start < t.stop ∧ t.stop ≤ text.length
  /-- A token stands behind those before it. -/
  ordered : tokens.Pairwise fun t u => t.stop ≤ u.start
  /-- An identifier, a number or an operator is its value, or stands between backticks. -/
  verbatim : ∀ t ∈ tokens, t.kind ∈ [.ident, .number, .op] → '\x60' ∉ t.value.toList ∧
    (spanned text [t] = t.value ∨ t.kind = .ident ∧ spanned text [t] = "\x60" ++ t.value ++ "\x60")
  /-- No two line breaks are neighbours. -/
  apart : tokens.IsChain fun t u => ¬ (t.kind = .newline ∧ u.kind = .newline)
  /-- A line break stands in a quoted literal only as a part of an escape. -/
  quoted : ∀ t ∈ tokens, isQuoted t.kind (spanned text [t]).toList →
    ∃ quote inside, (spanned text [t]).toList = quote :: inside ∧ IsQuote quote ∧ Inside inside
  /-- The line of a token counts the line breaks before it, but for those in quoted literals. -/
  line : ∀ before t after, tokens = before ++ t :: after →
    t.line + (before.map fun u => hiddenBreaks u.kind (spanned text [u]).toList).sum =
      1 + (text.toList.take t.start).count '\n'

theorem toList_spanned (text : String) (t : Token) :
    (spanned text [t]).toList = t.span text.toList := by
  simp [spanned, Token.span]

/-- The tokens of every text stand where they say, and spell what they say. -/
theorem scan_placed (text : String) : Placed text (scan text).tokens := by
  have hlaid : Laid text.toList 0 0 false (scan text).tokens :=
    laid_scanFrom (List.drop_zero) (Nat.zero_le _) rfl
  exact {
    within := fun t ht => by
      obtain ⟨-, hpos, hstop, -⟩ := hlaid.within t ht
      exact ⟨hpos, by simpa only [String.length_toList] using hstop⟩
    ordered := hlaid.ordered
    verbatim := fun t ht hkind => by
      obtain ⟨-, -, -, hspelled⟩ := hlaid.within t ht
      rw [← toList_spanned] at hspelled
      refine ⟨hspelled.not_mem_value hkind (.inr rfl), ?_⟩
      refine (hspelled.verbatim hkind).imp String.toList_inj.1 fun ⟨hident, hspan⟩ => ⟨hident, ?_⟩
      exact String.toList_inj.1 (by simpa using hspan)
    apart := hlaid.apart
    quoted := fun t ht hquoted => by
      obtain ⟨-, -, -, hspelled⟩ := hlaid.within t ht
      exact (toList_spanned text t ▸ hspelled).inside hquoted
    line := fun before t after htokens => by
      simpa [toList_spanned, breaksBefore] using hlaid.counts htokens }

/-- A quoted literal without an escape spans no line break. -/
theorem Placed.newline_not_mem {text : String} {tokens : List Token} (h : Placed text tokens)
    (ht : t ∈ tokens) (hquoted : isQuoted t.kind (spanned text [t]).toList = true)
    (hescape : '\\' ∉ (spanned text [t]).toList) : '\n' ∉ (spanned text [t]).toList := by
  obtain ⟨quote, inside, hspan, hquote, hinside⟩ := h.quoted t ht hquoted
  rw [hspan, List.mem_cons, not_or] at hescape ⊢
  refine ⟨?_, hinside.newline_not_mem hescape.2⟩
  rcases hquote with rfl | rfl <;> decide

/-- The line of a token is exact if no quoted literal spans a line break. -/
theorem Placed.line_eq {text : String} {tokens : List Token} (h : Placed text tokens)
    (hquoted : ∀ t ∈ tokens, isQuoted t.kind (spanned text [t]).toList →
      '\n' ∉ (spanned text [t]).toList) :
    ∀ t ∈ tokens, t.line = 1 + (text.toList.take t.start).count '\n' := by
  intro t ht
  obtain ⟨before, after, rfl⟩ := List.append_of_mem ht
  have hzero : (before.map fun u => hiddenBreaks u.kind (spanned text [u]).toList).sum = 0 := by
    refine List.sum_eq_zero fun n hn => ?_
    obtain ⟨u, hu, rfl⟩ := List.mem_map.1 hn
    rw [hiddenBreaks]
    split
    · next hspan => exact List.count_eq_zero_of_not_mem (hquoted u (by simp [hu]) hspan)
    · rfl
  rw [← h.line before t after rfl, hzero, Nat.add_zero]

/-- A literal with an escaped line break, and a word behind it. -/
def brokenLiteral : String := "\"\\\n\" a"

/-- An escaped line break is taken for a part of the literal, and the word on the next line is
reported on the line before. -/
theorem escaped_break_not_counted :
    ∃ literal word, (scan brokenLiteral).tokens = [literal, word] ∧
      isQuoted literal.kind (spanned brokenLiteral [literal]).toList = true ∧
      '\n' ∈ (spanned brokenLiteral [literal]).toList ∧
      word.line ≠ 1 + (brokenLiteral.toList.take word.start).count '\n' := by
  refine ⟨⟨.string, "\n", 1, 0, 4, false⟩, ⟨.ident, "a", 1, 5, 6, false⟩, ?_, ?_, ?_, ?_⟩
  all_goals decide +kernel

end Positions

end BuildGraph.Script
