import BuildGraph.Proofs.Number.Decimal
import BuildGraph.Proofs.Script.Delimiters
import BuildGraph.Script.Layout

/-!
# Spelling of written text

`Spelled` takes a text apart into words, numbers, operators, literals and blanks of which no two run
together, and `Written` names the signs that such a text is scanned to. Texts are written to each
other where a parenthesis or a blank keeps them apart. `scan_quoteAll_spec` says that a call of
string literals is scanned to the texts that were quoted.
-/

namespace BuildGraph.Script

namespace Piece

/-- An operator that no other operator goes on with. -/
def isFinal (mark : String) : Bool := ["(", ")", "\x7b", "\x7d", ",", ".."].contains mark

theorem endsOperator_of_isFinal {mark : String} (h : isFinal mark = true) (x : Char) :
    endsOperator mark x = true := by
  simp only [isFinal, List.contains_eq_mem, List.mem_cons, List.not_mem_nil, or_false,
    decide_eq_true_eq] at h
  rcases h with rfl | rfl | rfl | rfl | rfl | rfl <;>
    simp [endsOperator, operators_eq, List.isPrefixOf]

/-- Behind an operator that no other goes on with any part may stand. -/
@[simp]
theorem joins_of_isFinal {mark : String} (h : isFinal mark = true) (q : Piece) :
    (operator mark).joins q = true := by
  cases q with
  | operator next =>
      cases hnext : next.toList.head? with
      | none => simp [joins, hnext]
      | some x => simp [joins, hnext, endsOperator_of_isFinal h]
  | _ => rfl

@[simp]
theorem joins_blank (p : Piece) : p.joins blank = true := by
  cases p <;> rfl

@[simp]
theorem blank_joins (q : Piece) : blank.joins q = true := by
  cases q <;> rfl

/-- A comma or a closing parenthesis may stand behind any part. -/
theorem joins_mark {p : Piece} (h : p.WellFormed) {mark : String}
    (hmark : mark = "," ∨ mark = ")") : p.joins (operator mark) = true := by
  have hops : ∀ op ∈ operators,
      endsOperator (String.ofList op) ',' = true ∧ endsOperator (String.ofList op) ')' = true := by
    simp [endsOperator, operators_eq, List.isPrefixOf]
  cases p with
  | operator first =>
      have hfirst := hops _ h.1
      rw [String.ofList_toList] at hfirst
      rcases hmark with rfl | rfl <;> simp [joins, hfirst]
  | number digits => rcases hmark with rfl | rfl <;> simp [joins]
  | _ => rfl

/-- Whether an expression may start with the part. -/
def opens : Piece → Bool
  | word _ | literal _ => true
  | operator mark => mark == "("
  | _ => false

/-- Whether an expression may end with the part. -/
def closes : Piece → Bool
  | word _ | literal _ => true
  | operator mark => mark == ")"
  | _ => false

/-- An operator may stand behind an expression. -/
theorem joins_of_closes {p : Piece} (h : p.closes = true) (mark : String) :
    p.joins (operator mark) = true := by
  cases p with
  | word name => rfl
  | literal text => rfl
  | operator first =>
      obtain rfl := eq_of_beq h
      exact joins_of_isFinal rfl _
  | _ => cases h

/-- An operator that may stand before an expression. -/
def isLeading (mark : String) : Bool := ["!", ".", "?."].contains mark

theorem joins_of_opens {mark : String} (hmark : isLeading mark = true) {p : Piece}
    (h : p.opens = true) : (operator mark).joins p = true := by
  simp only [isLeading, List.contains_eq_mem, List.mem_cons, List.not_mem_nil, or_false,
    decide_eq_true_eq] at hmark
  cases p with
  | operator next =>
      obtain rfl := eq_of_beq h
      rcases hmark with rfl | rfl | rfl <;>
        simp [joins, endsOperator, operators_eq, List.isPrefixOf]
  | word name => rfl
  | literal text => rfl
  | _ => cases h

end Piece

/-- The text is put together from the parts, and no two of them run together. -/
structure Spelled (text : String) (pieces : List Piece) : Prop where
  chars : text.toList = pieces.flatMap Piece.chars
  well : ∀ p ∈ pieces, p.WellFormed
  joins : pieces.IsChain fun p q => p.joins q = true

/-- The text is put together from parts that are scanned to the signs. -/
def Written (text : String) (signs : List Sign) : Prop :=
  ∃ pieces, Spelled text pieces ∧ pieces.filterMap Piece.sign? = signs

variable {text more name : String} {pieces morePieces : List Piece}
  {signs moreSigns inner : List Sign}

theorem Spelled.append (h : Spelled text pieces) (hmore : Spelled more morePieces)
    (hjoins : ∀ p ∈ pieces.getLast?, ∀ q ∈ morePieces.head?, p.joins q = true) :
    Spelled (text ++ more) (pieces ++ morePieces) where
  chars := by rw [String.toList_append, h.chars, hmore.chars, List.flatMap_append]
  well := fun p hp => (List.mem_append.1 hp).elim (h.well p) (hmore.well p)
  joins := List.isChain_append.2 ⟨h.joins, hmore.joins, hjoins⟩

theorem Spelled.written (h : Spelled text pieces) :
    Written text (pieces.filterMap Piece.sign?) :=
  ⟨pieces, h, rfl⟩

/-- A written text at the end of a line is scanned to its signs. -/
theorem Written.scans (h : Written text signs) : Scans text.toList signs := by
  obtain ⟨pieces, hspelled, rfl⟩ := h
  rw [hspelled.chars]
  exact scans_pieces hspelled.well hspelled.joins

theorem spelled_blank : Spelled " " [.blank] where
  chars := rfl
  well := by simp [Piece.WellFormed]
  joins := .singleton _

theorem spelled_quote (value : String) : Spelled (quote value) [.literal value] where
  chars := by simp [quote, Piece.chars]
  well := by simp [Piece.WellFormed]
  joins := .singleton _

theorem spelled_word (h : isIdentifier name.toList = true) : Spelled name [.word name] where
  chars := by simp [Piece.chars]
  well := by simpa [Piece.WellFormed] using h
  joins := .singleton _

theorem spelled_operator (h : name.toList ∈ operators) (hslash : name.toList.head? ≠ some '/') :
    Spelled name [.operator name] where
  chars := by simp [Piece.chars]
  well := by simpa [Piece.WellFormed] using ⟨h, hslash⟩
  joins := .singleton _

/-- The decimal text of a natural number is a number. -/
theorem spelled_number (n : Nat) : Spelled (toString n) [.number (toString n)] where
  chars := by simp [Piece.chars]
  well := by
    intro p hp
    obtain rfl := List.mem_singleton.1 hp
    refine ⟨fun hnil => ?_, fun c => Number.isDigit_of_mem_toString⟩
    have hchars := Number.toList_toString n
    rw [hnil] at hchars
    exact Nat.toDigits_ne_nil hchars.symm
  joins := .singleton _

theorem written_quote (value : String) : Written (quote value) [.string value] :=
  (spelled_quote value).written

theorem written_word (h : isIdentifier name.toList = true) : Written name [.ident name] :=
  (spelled_word h).written

theorem written_number (n : Nat) : Written (toString n) [.number (toString n)] :=
  (spelled_number n).written

/-- A written text may be put together in another way. -/
theorem Written.of_eq (h : Written text signs) (htext : more.toList = text.toList)
    (hsigns : moreSigns = signs) : Written more moreSigns := by
  rwa [String.toList_inj.1 htext, hsigns]

/-- A blank keeps two texts apart. -/
theorem Written.append_blank (h : Written text signs) (hmore : Written more moreSigns) :
    Written (text ++ " " ++ more) (signs ++ moreSigns) := by
  obtain ⟨pieces, hspelled, rfl⟩ := h
  obtain ⟨morePieces, hmorespelled, rfl⟩ := hmore
  refine ⟨_, (hspelled.append spelled_blank ?_).append hmorespelled ?_, ?_⟩
  · simp
  · simp
  · simp [List.filterMap_cons, Piece.sign?]

/-- An indented line is scanned like the line itself. -/
theorem Scans.indented {line : String} (h : Scans line.toList signs) :
    Scans (indent ++ line).toList signs := by
  have hindent : (indent ++ line).toList = ' ' :: ' ' :: ' ' :: ' ' :: line.toList := by
    simp [indent]
  rw [hindent]
  exact h.blank.blank.blank.blank

section Shapes

/-- The signs of string literals between commas. -/
def literals (values : List String) : List Sign :=
  List.intercalate [.op ","] (values.map fun v => [Sign.string v])

/-- The signs of a call. -/
def call (method : String) (inner : List Sign) : List Sign :=
  .ident method :: .op "(" :: (inner ++ [.op ")"])

/-- The signs of an expression between parentheses. -/
def parens (signs : List Sign) : List Sign := .op "(" :: (signs ++ [.op ")"])

/-- The signs of an assignment. -/
def assigned (property : String) (value : List Sign) : List Sign :=
  .ident property :: .op "=" :: value

theorem literals_balanced (values : List String) : Balanced (literals values) := by
  refine .of_all_plain ?_
  induction values with
  | nil => simp [literals]
  | cons v values ih =>
      cases values with
      | nil => simp [literals, Sign.isPlain, Sign.string]
      | cons w values =>
          simp only [literals, List.map_cons, List.intercalate_cons_cons] at ih ⊢
          intro s hs
          rcases List.mem_append.1 hs with hs | hs
          · simp only [List.cons_append, List.nil_append, List.mem_cons, List.not_mem_nil,
              or_false] at hs
            rcases hs with rfl | rfl <;> rfl
          · exact ih s hs

/-- A call is a statement. -/
theorem isStatement_call (method : String) (h : Balanced inner) :
    IsStatement (call method inner) where
  inline := .plain rfl (.group rfl h .nil)
  starts := ⟨method, _, rfl⟩
  ends := by
    intro s hs
    have hlast : (call method inner).getLast? = some (.op ")") := by
      rw [call, ← List.cons_append, ← List.cons_append, List.getLast?_concat]
    obtain rfl := Option.some.inj (hlast.symm.trans hs)
    decide

/-- Setting a property is a statement when the value does not go on over the end of its line. -/
theorem isStatement_assigned (property : String) {value : List Sign} (h : Inline value)
    (hne : value ≠ []) (hends : ∀ s ∈ value.getLast?, s.carriesOn = false) :
    IsStatement (assigned property value) where
  inline := .plain rfl (.plain rfl h)
  starts := ⟨property, _, rfl⟩
  ends := by
    obtain ⟨s, value, rfl⟩ := List.exists_cons_of_ne_nil hne
    rwa [assigned, List.getLast?_cons_cons, List.getLast?_cons_cons]

theorem spelled_comma : Spelled "," [.operator ","] :=
  spelled_operator (by simp [operators_eq]) (by simp)

theorem spelled_open : Spelled "(" [.operator "("] :=
  spelled_operator (by simp [operators_eq]) (by simp)

theorem spelled_close : Spelled ")" [.operator ")"] :=
  spelled_operator (by simp [operators_eq]) (by simp)

/-- A comma and a blank keep two texts apart. -/
theorem Written.append_comma (h : Written text signs) (hmore : Written more moreSigns) :
    Written (text ++ ", " ++ more) (signs ++ .op "," :: moreSigns) := by
  obtain ⟨pieces, hspelled, rfl⟩ := h
  obtain ⟨morePieces, hmorespelled, rfl⟩ := hmore
  have hcomma : Spelled ", " [.operator ",", .blank] :=
    spelled_comma.append spelled_blank (by simp)
  refine ⟨_, (hspelled.append hcomma ?_).append hmorespelled ?_, ?_⟩
  · intro p hp q hq
    obtain rfl := Option.some.inj hq
    exact Piece.joins_mark (hspelled.well p (List.mem_of_getLast? hp)) (.inl rfl)
  · simp
  · simp [List.filterMap_cons, Piece.sign?]

/-- Literals are written with commas between them. -/
theorem written_quoteAll (values : List String) : Written (quoteAll values) (literals values) := by
  induction values with
  | nil => exact ⟨[], ⟨rfl, by simp, .nil⟩, rfl⟩
  | cons v values ih =>
      cases values with
      | nil => simpa [quoteAll, literals] using written_quote v
      | cons w values =>
          have hwritten := (written_quote v).append_comma ih
          rw [quoteAll, List.map_cons, List.map_cons, String.intercalate_cons_cons]
          exact hwritten

/-- A written text that may stand next to points, negations and parentheses. -/
def Expression (text : String) (signs : List Sign) : Prop :=
  ∃ pieces, Spelled text pieces ∧ pieces.filterMap Piece.sign? = signs ∧
    (∃ p ∈ pieces.head?, p.opens = true) ∧ ∃ p ∈ pieces.getLast?, p.closes = true

/-- The text of an expression may be put together in another way. -/
theorem Expression.of_eq (h : Expression text signs) (htext : more.toList = text.toList)
    (hsigns : moreSigns = signs) : Expression more moreSigns := by
  rwa [String.toList_inj.1 htext, hsigns]

theorem Expression.written (h : Expression text signs) : Written text signs := by
  obtain ⟨pieces, hspelled, hsigns, -, -⟩ := h
  exact ⟨pieces, hspelled, hsigns⟩

theorem expression_quote (value : String) : Expression (quote value) [.string value] :=
  ⟨_, spelled_quote value, rfl, ⟨_, rfl, rfl⟩, ⟨_, rfl, rfl⟩⟩

theorem expression_word (hname : isIdentifier name.toList = true) : Expression name [.ident name] :=
  ⟨_, spelled_word hname, rfl, ⟨_, rfl, rfl⟩, ⟨_, rfl, rfl⟩⟩

/-- A call is an expression. -/
theorem expression_call (hname : isIdentifier name.toList = true) (h : Written text signs) :
    Expression (name ++ "(" ++ text ++ ")") (call name signs) := by
  obtain ⟨pieces, hspelled, rfl⟩ := h
  have hopen : Spelled (name ++ "(") [.word name, .operator "("] :=
    (spelled_word hname).append spelled_open (by simp [Piece.joins])
  have hinside := hopen.append hspelled (by simp [Piece.isFinal])
  refine ⟨_, hinside.append spelled_close ?_, ?_, ⟨_, rfl, rfl⟩, ⟨_, List.getLast?_concat, rfl⟩⟩
  · intro p hp q hq
    obtain rfl := Option.some.inj hq
    exact Piece.joins_mark (hinside.well p (List.mem_of_getLast? hp)) (.inr rfl)
  · simp [Script.call, Piece.sign?]

theorem spelled_leading {mark : String} (h : Piece.isLeading mark = true) :
    Spelled mark [.operator mark] := by
  simp only [Piece.isLeading, List.contains_eq_mem, List.mem_cons, List.not_mem_nil, or_false,
    decide_eq_true_eq] at h
  rcases h with rfl | rfl | rfl <;> exact spelled_operator (by simp [operators_eq]) (by simp)

/-- A point keeps two expressions apart. -/
theorem Expression.append (mark : String) (hmark : Piece.isLeading mark = true)
    (h : Expression text signs) (hmore : Expression more moreSigns) :
    Expression (text ++ mark ++ more) (signs ++ .op mark :: moreSigns) := by
  obtain ⟨pieces, hspelled, rfl, ⟨first, hfirst, hopens⟩, ⟨last, hlast, hcloses⟩⟩ := h
  obtain ⟨morePieces, hmorespelled, rfl, ⟨second, hsecond, hsecondOpens⟩, ⟨final, hfinal,
    hfinalCloses⟩⟩ := hmore
  -- the mark joins the last part of the one and the first part of the other
  refine ⟨_, (hspelled.append (spelled_leading hmark) ?_).append hmorespelled ?_, ?_,
    ⟨first, ?_, hopens⟩, ⟨final, ?_, hfinalCloses⟩⟩
  · intro p hp q hq
    obtain rfl := Option.some.inj hq
    obtain rfl := Option.some.inj (hlast.symm.trans hp)
    exact Piece.joins_of_closes hcloses mark
  · intro p hp q hq
    rw [List.getLast?_concat] at hp
    obtain rfl := Option.some.inj hp
    obtain rfl := Option.some.inj (hsecond.symm.trans hq)
    exact Piece.joins_of_opens hmark hsecondOpens
  · simp [Piece.sign?]
  · simp [List.head?_append, Option.mem_def.1 hfirst]
  · rw [List.getLast?_append, Option.mem_def.1 hfinal]
    rfl

/-- A text between parentheses is an expression. -/
theorem expression_parens (h : Written text signs) :
    Expression ("(" ++ text ++ ")") (parens signs) := by
  obtain ⟨pieces, hspelled, rfl⟩ := h
  have hinside := spelled_open.append hspelled (by simp [Piece.isFinal])
  refine ⟨_, hinside.append spelled_close ?_, ?_, ⟨_, rfl, rfl⟩, ⟨_, List.getLast?_concat, rfl⟩⟩
  · intro p hp q hq
    obtain rfl := Option.some.inj hq
    exact Piece.joins_mark (hinside.well p (List.mem_of_getLast? hp)) (.inr rfl)
  · simp [Piece.sign?, parens]

/-- A negated expression is written. -/
theorem Expression.negated (h : Expression text signs) :
    Written ("!" ++ text) (.op "!" :: signs) := by
  obtain ⟨pieces, hspelled, rfl, ⟨first, hfirst, hopens⟩, -⟩ := h
  have hmark : Spelled "!" [.operator "!"] := spelled_leading rfl
  refine ⟨_, hmark.append hspelled ?_, by simp [Piece.sign?]⟩
  intro p hp q hq
  obtain rfl := Option.some.inj hp
  obtain rfl := Option.some.inj (hfirst.symm.trans hq)
  exact Piece.joins_of_opens rfl hopens

/-- A call is written with its arguments between parentheses. -/
theorem Written.call (h : Written text signs) (name : String)
    (hname : isIdentifier name.toList = true) :
    Written (name ++ "(" ++ text ++ ")") (call name signs) :=
  (expression_call hname h).written

/-- A property and its value stand on the two sides of `=`. -/
theorem Written.assigned (h : Written text signs) (name : String)
    (hname : isIdentifier name.toList = true) :
    Written (name ++ " = " ++ text) (assigned name signs) := by
  have hequals : Written "=" [.op "="] :=
    (spelled_operator (by simp [operators_eq]) (by simp)).written
  have htext : name ++ " = " ++ text = name ++ " " ++ "=" ++ " " ++ text := by
    rw [← String.toList_inj]
    simp
  rw [htext]
  exact ((written_word hname).append_blank hequals).append_blank h

end Shapes

/-- A call whose arguments are quoted texts, whatever these hold, is scanned without faults to its
name, its parentheses, and the texts as literals without templates between commas. What stands
between the parentheses is read back as the texts. -/
theorem scan_quoteAll_spec {name : String} (hname : isIdentifier name.toList = true)
    (values : List String) :
    let s := scan (name ++ "(" ++ quoteAll values ++ ")")
    s.faults = [] ∧ Shows s.tokens (call name (literals values)) ∧
      stringArguments? (s.tokens.drop 2).dropLast = some values := by
  intro s
  obtain ⟨tokens, hshows, hscan⟩ := ((written_quoteAll values).call name hname).scans.whole
  have hs : s = ⟨tokens, []⟩ := hscan
  refine ⟨by rw [hs], by rwa [hs], ?_⟩
  -- the tokens are the name, the opening parenthesis, those inside, and the closing parenthesis
  obtain ⟨t, tail, rfl, -, htail⟩ := List.map_eq_cons_iff.1 hshows.signs
  obtain ⟨u, body, rfl, -, hbody⟩ := List.map_eq_cons_iff.1 htail
  obtain ⟨inside, last, rfl, hinside, hlast⟩ := List.map_eq_append_iff.1 hbody
  obtain ⟨w, after, rfl, -, hafter⟩ := List.map_eq_cons_iff.1 hlast
  obtain rfl := List.map_eq_nil_iff.1 hafter
  rw [hs]
  simpa using stringArguments?_intercalate hinside

/-- Texts that are empty, that look like escapes, templates and the ends of literals, and that hold
control characters. -/
theorem scan_quoteAll_spec_escapes :
    let values := ["", "", "\"\"\"", "\\u0041", "$\x7bx\x7d", "a, \"b\")\n\r\t",
      "\x00\x7f\u00e9\u2028"]
    let s := scan ("f" ++ "(" ++ quoteAll values ++ ")")
    isIdentifier "f".toList = true ∧ s.faults = [] ∧ Shows s.tokens (call "f" (literals values)) ∧
      stringArguments? (s.tokens.drop 2).dropLast = some values := by
  intro values s
  have hname : isIdentifier "f".toList = true := by decide
  exact ⟨hname, scan_quoteAll_spec hname values⟩

end BuildGraph.Script
