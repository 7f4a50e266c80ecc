import BuildGraph.Proofs.Script.Headers
import BuildGraph.Proofs.Script.Outcomes

/-!
# The sections of a script

`Finds` says what reading tokens of given signs at the top of a script does to what was found, and
`Section` says it of lines. A script is read section by section: comments and statements that do
nothing add nothing, a declaration adds a variable, and a block or a stub adds a task. A block may
stop the reading. The lines of blocks are left open, since they depend on all that stands above.
-/

namespace BuildGraph.Script

open Recognizer BuildGraph.Number

variable {signs more : List Sign} {act next : Findings → Except IntegerStop Findings}
  {line : String} {lines moreLines : List String} {g : Graph} {registered : List String}
  {options : ExportOptions} {n : Node}

/-- What was found, where no block tells its line. -/
def Findings.unlined (f : Findings) : Findings :=
  { f with blocks := f.blocks.map fun b => { b with line := 0 } }

/-- Reading tokens of the signs at the top of a script acts on what was found or stops, as far as
the lines of blocks do not count. -/
structure Finds (signs : List Sign) (act : Findings → Except IntegerStop Findings) : Prop where
  anew : ∀ tokens rest : List Token, tokens.map Token.sign = signs → StartsAnew rest →
    StartsAnew (tokens ++ rest)
  read : ∀ text (tokens rest : List Token) comment f, tokens.map Token.sign = signs →
    StartsAnew rest → comment ≠ some disabledMarker →
    ∃ found comment', comment' ≠ some disabledMarker ∧
      found.map Findings.unlined = act f.unlined ∧
      readTokens text 0 comment f (tokens ++ rest) =
        found >>= fun f' => readTokens text 0 comment' f' rest

section Tokens

theorem finds_nil : Finds [] .ok where
  anew := fun tokens rest htokens hrest => by
    obtain rfl := List.map_eq_nil_iff.1 htokens
    exact hrest
  read := fun text tokens rest comment f htokens _ hcomment => by
    obtain rfl := List.map_eq_nil_iff.1 htokens
    exact ⟨.ok f, comment, hcomment, rfl, rfl⟩

/-- What is found in one part and then in another is found in both together. -/
theorem Finds.append (h : Finds signs act) (hmore : Finds more next) :
    Finds (signs ++ more) fun f => act f >>= next where
  anew := fun tokens rest htokens hrest => by
    obtain ⟨front, back, rfl, hfront, hback⟩ := List.map_eq_append_iff.1 htokens
    rw [List.append_assoc]
    exact h.anew front _ hfront (hmore.anew back rest hback hrest)
  read := fun text tokens rest comment f htokens hrest hcomment => by
    obtain ⟨front, back, rfl, hfront, hback⟩ := List.map_eq_append_iff.1 htokens
    obtain ⟨found, comment₁, hcomment₁, hact, hread⟩ :=
      h.read text front (back ++ rest) comment f hfront (hmore.anew back rest hback hrest) hcomment
    rw [List.append_assoc, hread, ← hact]
    cases found with
    | error stop => exact ⟨.error stop, comment₁, hcomment₁, rfl, rfl⟩
    | ok f₁ => exact hmore.read text back rest comment₁ f₁ hback hrest hcomment₁

/-- Tokens that still belong to a statement are passed over. -/
theorem readTokens_skip (text : String) (tokens rest : List Token) (comment : Option String)
    (f : Findings) :
    readTokens text tokens.length comment f (tokens ++ rest) =
      readTokens text 0 comment f rest := by
  induction tokens with
  | nil => rfl
  | cons t tokens ih => simpa [readTokens] using ih

theorem readTokens_newline {t : Token} (ht : t.sign = .newline) (text : String)
    (comment : Option String) (f : Findings) (rest : List Token) :
    readTokens text 0 comment f (t :: rest) = readTokens text 0 comment f rest := by
  have hkind : t.kind = .newline := congrArg Prod.fst ht
  rw [readTokens]
  simp [hkind]

theorem readTokens_comment {t : Token} {words : String} (ht : t.sign = .comment words)
    (text : String) (comment : Option String) (f : Findings) (rest : List Token) :
    readTokens text 0 comment f (t :: rest) = readTokens text 0 (some words)
      (if comment = some disabledMarker then readStub t f else f) rest := by
  obtain ⟨hkind, hvalue⟩ := Prod.ext_iff.1 ht
  simp only [Token.sign, Sign.comment] at hkind hvalue
  rw [readTokens]
  simp [hkind, hvalue, Token.isOp]

/-- What starts with no significant token starts anew if the rest does. -/
theorem startsAnew_cons {t : Token} (ht : t.isSignificant = false) {rest : List Token}
    (h : StartsAnew rest) : StartsAnew (t :: rest) := by
  rwa [StartsAnew, List.find?_cons_of_neg (by simp [ht])]

theorem finds_newline : Finds [.newline] .ok where
  anew := fun tokens rest htokens hrest => by
    obtain ⟨t, tail, rfl, ht, htail⟩ := List.map_eq_cons_iff.1 htokens
    obtain rfl := List.map_eq_nil_iff.1 htail
    exact startsAnew_cons (by rw [isSignificant_eq, ht]; rfl) hrest
  read := fun text tokens rest comment f htokens _ hcomment => by
    obtain ⟨t, tail, rfl, ht, htail⟩ := List.map_eq_cons_iff.1 htokens
    obtain rfl := List.map_eq_nil_iff.1 htail
    exact ⟨.ok f, comment, hcomment, rfl, readTokens_newline ht text comment f rest⟩

/-- A comment that announces no stub is passed over. -/
theorem finds_comment {words : String} (h : words ≠ disabledMarker) :
    Finds [.comment words, .newline] .ok where
  anew := fun tokens rest htokens hrest => by
    obtain ⟨t, tail, rfl, ht, htail⟩ := List.map_eq_cons_iff.1 htokens
    refine startsAnew_cons (by rw [isSignificant_eq, ht]; rfl) ?_
    exact finds_newline.anew tail rest htail hrest
  read := fun text tokens rest comment f htokens hrest hcomment => by
    obtain ⟨t, tail, rfl, ht, htail⟩ := List.map_eq_cons_iff.1 htokens
    rw [List.cons_append, readTokens_comment ht, if_neg hcomment]
    exact finds_newline.read text tail rest (some words) f htail hrest (by simpa using h)

/-- The signs are a line that goes on over no line break and is carried on from no line before. -/
structure IsPhrase (signs : List Sign) : Prop where
  inline : Inline signs
  starts : ∃ s tail, signs = s :: tail ∧ s.isSignificant = true ∧
    (s.1 == .op && (";" :: carriedOn).contains s.2) = false
  ends : ∀ s ∈ signs.getLast?, s.carriesOn = false

theorem IsStatement.phrase (h : IsStatement signs) : IsPhrase signs where
  inline := h.inline
  starts := by
    obtain ⟨name, tail, rfl⟩ := h.starts
    exact ⟨_, tail, rfl, rfl, rfl⟩
  ends := h.ends

theorem IsPhrase.startsAnew (h : IsPhrase signs) {tokens : List Token}
    (htokens : tokens.map Token.sign = signs) (rest : List Token) :
    StartsAnew (tokens ++ rest) := by
  obtain ⟨s, tail, rfl, hs, hcarried⟩ := h.starts
  obtain ⟨t, more, rfl, rfl, -⟩ := List.map_eq_cons_iff.1 htokens
  have hsignificant : t.isSignificant = true := hs
  rw [StartsAnew, List.cons_append, List.find?_cons_of_pos hsignificant, Option.any_some]
  simp only [Token.sign, List.contains_cons, Bool.and_or_distrib_left, Bool.or_eq_false_iff]
    at hcarried
  exact hcarried.2

/-- A line that is a statement is read, and reading goes on behind it. -/
theorem readTokens_phrase (h : IsPhrase signs) {tokens rest : List Token} {nl : Token}
    (htokens : tokens.map Token.sign = signs) (hnl : nl.sign = .newline) (hrest : StartsAnew rest)
    (text : String) (comment : Option String) (f : Findings) :
    ∃ line, readTokens text 0 comment f (tokens ++ nl :: rest) =
      readTopStatement text tokens line f >>= fun f' => readTokens text 0 none f' rest := by
  have hlength := statementLength_line h.inline h.ends htokens
    (.inr ⟨nl, rest, rfl, congrArg Prod.fst hnl, hrest⟩)
  obtain ⟨s, tail, rfl, hs, hcarried⟩ := h.starts
  obtain ⟨t, body, rfl, rfl, -⟩ := List.map_eq_cons_iff.1 htokens
  have hplain : (t.kind == .newline || t.isOp ";") = false ∧ (t.kind == .comment) = false := by
    simp only [Sign.isSignificant, Token.sign, Bool.and_eq_true, bne_iff_ne] at hs
    simp only [Token.sign, List.contains_cons, Bool.and_or_distrib_left, Bool.or_eq_false_iff]
      at hcarried
    exact ⟨by simpa [Token.isOp, hs.1] using hcarried.1, by simpa using hs.2⟩
  have htake : (t :: (body ++ nl :: rest)).take (body.length + 1) = t :: body := by
    rw [List.take_succ_cons, List.take_left]
  refine ⟨t.line, ?_⟩
  rw [List.cons_append] at hlength ⊢
  rw [readTokens]
  simp only [hplain.1, hplain.2, hlength, htake, List.length_cons, Nat.add_sub_cancel,
    Bool.false_eq_true, if_false]
  cases readTopStatement text (t :: body) t.line f with
  | error stop => rfl
  | ok f' =>
      have hskip := readTokens_skip text body (nl :: rest) none f'
      rw [readTokens_newline hnl] at hskip
      exact hskip

/-- A statement at the end of its line is read as what it does. -/
theorem finds_statement (h : IsPhrase signs)
    (hread : ∀ text (tokens : List Token) line f, tokens.map Token.sign = signs →
      (readTopStatement text tokens line f).map Findings.unlined = act f.unlined) :
    Finds (signs ++ [.newline]) act where
  anew := fun tokens rest htokens _ => by
    obtain ⟨front, back, rfl, hfront, -⟩ := List.map_eq_append_iff.1 htokens
    rw [List.append_assoc]
    exact h.startsAnew hfront _
  read := fun text tokens rest comment f htokens hrest _ => by
    obtain ⟨front, back, rfl, hfront, hback⟩ := List.map_eq_append_iff.1 htokens
    obtain ⟨nl, after, rfl, hnl, hafter⟩ := List.map_eq_cons_iff.1 hback
    obtain rfl := List.map_eq_nil_iff.1 hafter
    obtain ⟨line, hline⟩ := readTokens_phrase h hfront hnl hrest text comment f
    refine ⟨_, none, by simp, hread text front line f hfront, ?_⟩
    rw [List.append_assoc, List.singleton_append, hline]

/-- A stub behind the comment that announces it adds a task that is switched off. -/
theorem finds_stub (n : Node) :
    Finds [.comment disabledMarker, .newline, .comment (stubText n), .newline]
      fun f => .ok { f with blocks := f.blocks ++ [stubBlock n 0] } where
  anew := fun tokens rest htokens hrest => by
    obtain ⟨t, tail, rfl, ht, htail⟩ := List.map_eq_cons_iff.1 htokens
    obtain ⟨t₁, tail₁, rfl, ht₁, htail₁⟩ := List.map_eq_cons_iff.1 htail
    obtain ⟨t₂, tail₂, rfl, ht₂, htail₂⟩ := List.map_eq_cons_iff.1 htail₁
    refine startsAnew_cons (by rw [isSignificant_eq, ht]; rfl) ?_
    refine startsAnew_cons (by rw [isSignificant_eq, ht₁]; rfl) ?_
    refine startsAnew_cons (by rw [isSignificant_eq, ht₂]; rfl) ?_
    exact finds_newline.anew tail₂ rest htail₂ hrest
  read := fun text tokens rest comment f htokens hrest hcomment => by
    obtain ⟨t, tail, rfl, ht, htail⟩ := List.map_eq_cons_iff.1 htokens
    obtain ⟨t₁, tail₁, rfl, ht₁, htail₁⟩ := List.map_eq_cons_iff.1 htail
    obtain ⟨t₂, tail₂, rfl, ht₂, htail₂⟩ := List.map_eq_cons_iff.1 htail₁
    have hother := stubText_ne_disabledMarker n
    obtain ⟨found, comment', hcomment', hfound, hread⟩ := finds_newline.read text tail₂ rest
      (some (stubText n)) { f with blocks := f.blocks ++ [stubBlock n t₂.line] } htail₂ hrest
      (by simpa using hother)
    refine ⟨found, comment', hcomment', ?_, ?_⟩
    · rw [hfound]
      simp [Findings.unlined, stubBlock]
    · rw [List.cons_append, List.cons_append, List.cons_append, readTokens_comment ht,
        if_neg hcomment, readTokens_newline ht₁, readTokens_comment ht₂, if_pos rfl,
        readStub_eq (congrArg Prod.snd ht₂), hread]

end Tokens

section Lines

/-- The text of lines that each end in a line break. -/
def textOf (lines : List String) : List Char := lines.flatMap fun l => l.toList ++ ['\n']

@[simp]
theorem textOf_append (lines moreLines : List String) :
    textOf (lines ++ moreLines) = textOf lines ++ textOf moreLines :=
  List.flatMap_append

/-- Reading the lines at the top of a script acts on what was found or stops. Their text is scanned
row by row, where blank rows do not count. A comment over several lines is one row. -/
def Section (lines : List String) (act : Findings → Except IntegerStop Findings) : Prop :=
  ∃ (rows : List (List Char)) (signs : List (List Sign)),
    rows.flatMap (· ++ ['\n']) = textOf lines ∧ List.Forall₂ Scans rows signs ∧
      Finds ((signs.filter (!·.isEmpty)).flatMap (· ++ [.newline])) act

/-- Lines may be read as they are. -/
theorem Section.of_lines {signs : List (List Sign)}
    (hscans : List.Forall₂ (fun line signs => Scans line.toList signs) lines signs)
    (h : Finds ((signs.filter (!·.isEmpty)).flatMap (· ++ [.newline])) act) : Section lines act :=
  ⟨lines.map String.toList, signs, List.flatMap_map .., List.forall₂_map_left_iff.2 hscans, h⟩

theorem section_nil : Section [] .ok :=
  .of_lines .nil finds_nil

theorem Section.append (h : Section lines act) (hmore : Section moreLines next) :
    Section (lines ++ moreLines) fun f => act f >>= next := by
  obtain ⟨rows, signs, htext, hscans, hfinds⟩ := h
  obtain ⟨moreRows, moreSigns, hmoreText, hmoreScans, hmoreFinds⟩ := hmore
  refine ⟨rows ++ moreRows, signs ++ moreSigns, ?_, List.rel_append hscans hmoreScans, ?_⟩
  · rw [List.flatMap_append, htext, hmoreText, textOf_append]
  · rw [List.filter_append, List.flatMap_append]
    exact hfinds.append hmoreFinds

/-- What adds nothing may stand in front. -/
theorem Section.after_nothing (h : Section lines .ok) (hmore : Section moreLines next) :
    Section (lines ++ moreLines) next :=
  h.append hmore

/-- What adds nothing may stand behind. -/
theorem Section.before_nothing (h : Section lines act) (hmore : Section moreLines .ok) :
    Section (lines ++ moreLines) act := by
  have hboth := h.append hmore
  simpa only [show ∀ found : Except IntegerStop Findings, (found >>= .ok) = found from bind_pure]
    using hboth

theorem section_blank : Section [""] .ok :=
  .of_lines (.cons scans_nil .nil) finds_nil

/-- The lines end with a blank one, the line before it ends with no line break, and all but the
blank one act on what was found or stop when they are read. -/
def Paragraph (lines : List String) (act : Findings → Except IntegerStop Findings) : Prop :=
  ∃ init last c cs, lines = init ++ [last, ""] ∧ last.toList = cs ++ [c] ∧ c ≠ '\n' ∧
    Section (init ++ [last]) act

theorem Paragraph.section (h : Paragraph lines act) : Section lines act := by
  obtain ⟨init, last, c, cs, rfl, -, -, hsection⟩ := h
  simpa using hsection.before_nothing section_blank

/-- A section may stand in front of a paragraph. -/
theorem Section.paragraph (h : Section lines act) (hmore : Paragraph moreLines next) :
    Paragraph (lines ++ moreLines) fun f => act f >>= next := by
  obtain ⟨init, last, c, cs, rfl, hlast, hc, hsection⟩ := hmore
  refine ⟨lines ++ init, last, c, cs, by simp, hlast, hc, ?_⟩
  rw [List.append_assoc]
  exact h.append hsection

/-- There is a paragraph, or there is nothing. -/
def Paragraphs (lines : List String) (act : Findings → Except IntegerStop Findings) : Prop :=
  (lines = [] ∧ act = .ok) ∨ Paragraph lines act

theorem Paragraphs.nil : Paragraphs [] .ok :=
  .inl ⟨rfl, rfl⟩

theorem Paragraph.append (h : Paragraph lines act) (hmore : Paragraphs moreLines next) :
    Paragraph (lines ++ moreLines) fun f => act f >>= next := by
  rcases hmore with ⟨rfl, rfl⟩ | hmore
  · have hact : (fun f => act f >>= .ok) = act := funext fun f => bind_pure (act f)
    rwa [List.append_nil, hact]
  · exact h.section.paragraph hmore

theorem Paragraphs.paragraph (h : Paragraphs lines act) (hmore : Paragraph moreLines next) :
    Paragraph (lines ++ moreLines) fun f => act f >>= next := by
  rcases h with ⟨rfl, rfl⟩ | h
  · exact hmore
  · exact h.section.paragraph hmore

/-- A line of a comment that announces no stub adds nothing. -/
theorem section_remark {words : String} (hline : line = "//" ++ words)
    (hwords : ∀ x ∈ words.toList, x ≠ '\n') (h : Text.trim words ≠ disabledMarker) :
    Section [line] .ok := by
  subst hline
  have hscans : Scans ("//" ++ words).toList [.comment (Text.trim words)] := by
    rw [String.toList_append]
    exact scans_comment hwords
  exact .of_lines (.cons hscans .nil) (finds_comment h)

/-- A comment that stands there or not adds nothing. -/
theorem section_flagLine (present : Bool) (h : Section [line] .ok) :
    Section (flagLine line present) .ok := by
  cases present with
  | false => exact section_nil
  | true => exact h

theorem section_statement (hwritten : Written line signs) (h : IsPhrase signs)
    (hread : ∀ text (tokens : List Token) line f, tokens.map Token.sign = signs →
      (readTopStatement text tokens line f).map Findings.unlined = act f.unlined) :
    Section [line] act := by
  have hne : signs ≠ [] := by
    obtain ⟨s, tail, rfl, -⟩ := h.starts
    simp
  exact .of_lines (.cons hwritten.scans .nil) (by simpa [hne] using finds_statement h hread)

theorem section_stub (n : Node) :
    Section ["// " ++ disabledMarker, "// " ++ registrationHeader n ++ " \x7b ... \x7d"]
      fun f => .ok { f with blocks := f.blocks ++ [stubBlock n 0] } := by
  have hmarker : Scans ("// " ++ disabledMarker).toList [.comment disabledMarker] := by
    have hlines : ∀ x ∈ " Task disabled in visual editor".toList, x ≠ '\n' := by simp
    have htrim : String.ofList (Text.trimChars " Task disabled in visual editor".toList) =
        disabledMarker := by
      decide +kernel
    have htext : ("// " ++ disabledMarker).toList =
        '/' :: '/' :: " Task disabled in visual editor".toList := by
      simp [disabledMarker]
    rw [htext, ← htrim]
    exact scans_comment hlines
  have hstub : Scans ("// " ++ registrationHeader n ++ " \x7b ... \x7d").toList
      [.comment (stubText n)] := by
    have htext : "// " ++ registrationHeader n ++ " \x7b ... \x7d" = "// " ++ stubText n := by
      rw [← String.toList_inj]
      simp [stubText]
    rw [htext]
    exact scans_stub n
  exact .of_lines (.cons hmarker (.cons hstub .nil)) (finds_stub n)

/-- The signs of a header with a block behind it. -/
def blockSigns (className : Option String) (name : String) (inner : List Sign) : List Sign :=
  headerSigns className name ++ Sign.op "\x7b" :: (inner ++ Sign.op "\x7d" :: [])

theorem isStatement_block (className : Option String) (name : String) (h : Balanced signs) :
    IsStatement (blockSigns className name signs) where
  inline := by
    have hclass : Inline (classSigns className) := by
      cases className with
      | none => exact .nil
      | some c => exact .plain rfl (.plain rfl (.plain rfl .nil))
    have hheader : Inline (headerSigns className name) := .plain rfl (.plain rfl (.plain rfl
      (hclass.append (.group rfl (.plain rfl .nil) .nil))))
    exact hheader.append (.group rfl h .nil)
  starts := ⟨_, _, rfl⟩
  ends := by
    intro s hs
    have hlast : (blockSigns className name signs).getLast? = some (.op "\x7d") := by
      rw [blockSigns, ← List.cons_append, ← List.append_assoc, List.getLast?_concat]
    obtain rfl := Option.some.inj (hlast.symm.trans hs)
    decide

/-- A header with a block behind it adds what its statements make of a new block, or stops. -/
theorem readTopStatement_block {className : Option String} {name : String}
    {statements : List (List Sign)} {act : Block → Except IntegerStop Block}
    (hlayout : Layout signs statements)
    (hbody : ∀ text declared pieces b, pieces.map (List.map Token.sign) = statements →
      readBody text declared pieces b = (act b).map fun b => (b, []))
    {tokens : List Token} (htokens : tokens.map Token.sign = blockSigns className name signs)
    (text : String) (line : Nat) (f : Findings) :
    readTopStatement text tokens line f =
      (act { name, kind := kindOfClass className, line } >>= recoverRequest).map fun block =>
        { f with blocks := f.blocks ++ [block] } := by
  obtain ⟨header, body, rfl, hheader, hgroup⟩ := List.map_eq_append_iff.1 htokens
  obtain ⟨t, inside, u, after, rfl, ht, hinside, hu, hafter⟩ := exists_group_tokens hgroup
  obtain rfl := List.map_eq_nil_iff.1 hafter
  have hregistration := registration_of_reads (reads_registerCall className name) hheader
    (t :: (inside ++ u :: [])) 0
  have hinner := @group_eq _ _ _ [] _ _ _ rfl hlayout.balanced ht hinside hu (0 + header.length)
  obtain ⟨pieces, hsplit, hpieces⟩ := split_layout hlayout hinside
  have hread := hbody text (f.vars.map Variable.name) pieces
    { name, kind := kindOfClass className, line } hpieces
  rw [readTopStatement, hregistration]
  simp only [hinner]
  rw [readBlock, hsplit]
  simp only [hread]
  cases act { name, kind := kindOfClass className, line } with
  | error stop => rfl
  | ok b =>
      simp only [Except.map, bind, Except.bind]
      cases recoverRequest b <;> simp

/-- The lines of a block are scanned to its header and its body. -/
theorem section_block (n : Node) {inner : List (List Sign)}
    (hscans : List.Forall₂ (fun line signs => Scans line.toList signs) (lines.map (indent ++ ·))
      inner) (hne : ∀ s ∈ inner, s ≠ [])
    (h : Finds (blockSigns n.kind.scriptClass? n.identifier
      (.newline :: inner.flatMap (· ++ [.newline])) ++ [.newline]) act) :
    Section ((registrationHeader n ++ " \x7b") :: (lines.map (indent ++ ·) ++ ["\x7d"])) act := by
  have hclose : Written "\x7d" [.op "\x7d"] := written_mark _ (by simp [operators_eq]) (by simp)
  refine .of_lines
    (.cons (written_opening n).scans (List.rel_append hscans (.cons hclose.scans .nil))) ?_
  -- no line of the body is blank, so every line break is kept
  have hkeep : inner.filter (!·.isEmpty) = inner :=
    List.filter_eq_self.2 fun s hs => by simpa using hne s hs
  have hsigns : (((headerSigns n.kind.scriptClass? n.identifier ++ [Sign.op "\x7b"]) ::
      (inner ++ [[Sign.op "\x7d"]])).filter (!·.isEmpty)).flatMap (· ++ [.newline]) =
      blockSigns n.kind.scriptClass? n.identifier (.newline :: inner.flatMap (· ++ [.newline])) ++
        [.newline] := by
    rw [List.filter_cons_of_pos (by simp), List.filter_append, hkeep]
    simp [blockSigns]
  rwa [hsigns]

/-- Where a block stands does not show in whether it is a request. -/
theorem recoverRequest_line (b : Block) (line : Nat) : recoverRequest { b with line } =
    (recoverRequest b).map fun read => { read with line } := by
  simp only [recoverRequest]
  split
  · next args _ =>
      split
      · simp only [bind, Except.bind]
        cases HttpConfig.ofCurl? args with
        | error stop => rfl
        | ok request => cases request <;> rfl
      · rfl
  · rfl

/-- Where a block stands does not show in what else is read of it. -/
theorem readTaskBlock_line (line : Nat) :
    (readTaskBlock g registered options n line).map (fun b => { b with line := 0 }) =
      readTaskBlock g registered options n 0 := by
  simp only [readTaskBlock, bind, Except.bind]
  cases readSettings n.step with
  | error stop => rfl
  | ok settings =>
      cases readBack (keptMinutes n.timeoutMinutes) with
      | error stop => rfl
      | ok minutes =>
          have hline := recoverRequest_line { readBlockOf g registered options n line with
            settings := settings, timeoutMinutes := minutes } 0
          exact hline.symm

/-- A block adds what is read of its task. -/
theorem section_task (hrelations : ∀ r ∈ writtenRelations g registered n, Referable r.2) :
    Section ((registrationHeader n ++ " \x7b") ::
        ((bodyLines g registered options n).map (indent ++ ·) ++ ["\x7d"]))
      fun f => (readTaskBlock g registered options n 0).map fun b =>
        { f with blocks := f.blocks ++ [b] } := by
  obtain ⟨act, houtcomes, hact⟩ := @outcomes_body g registered options n hrelations
  obtain ⟨signs, statements, hscans, hne, hlayout, hbody⟩ := houtcomes.read_body
  have hinside : Layout (Sign.newline :: signs.flatMap (· ++ [.newline])) statements :=
    .gap rfl hlayout
  refine section_block n hscans hne (finds_statement (isStatement_block _ _ hinside.balanced).phrase
    fun text tokens line f htokens => ?_)
  rw [readTopStatement_block hinside hbody htokens text line f, hact, ← readTaskBlock_line line]
  cases readTaskBlock g registered options n line with
  | error stop => rfl
  | ok b => simp [Except.map, Findings.unlined]

end Lines

end BuildGraph.Script
