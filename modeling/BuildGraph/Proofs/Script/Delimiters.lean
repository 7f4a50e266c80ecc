import BuildGraph.Proofs.Script.Scan
import BuildGraph.Script.Cursor

/-!
# Paired delimiters and statements

Written text holds its delimiters in pairs. `Balanced` says so of signs, `IsStatement` singles out
the signs of one statement, and `Layout` tells how statements stand between line breaks and
comments. The searches for closing delimiters, the ends of statements and the cuts at operators all
pass over what is balanced.
-/

namespace BuildGraph.Script

namespace Sign

/-- Whether the sign is neither an opening nor a closing delimiter. -/
def isPlain (s : Sign) : Bool :=
  s.1 != .op || !(["\x7b", "\x7d", "(", ")", "[", "]"].contains s.2)

/-- Whether the sign is no line break and no comment. -/
def isSignificant (s : Sign) : Bool := s.1 != .newline && s.1 != .comment

end Sign

variable {t u : Token} {tokens rest : List Token} {signs : List Sign} {mark opener closer : String}

theorem isSignificant_eq (t : Token) : t.isSignificant = t.sign.isSignificant := rfl

theorem isOp_of_sign (h : t.sign = .op mark) (value : String) :
    t.isOp value = (mark == value) := by
  obtain ⟨hkind, hvalue⟩ := Prod.ext_iff.1 h
  simp only [Token.sign, Sign.op] at hkind hvalue
  simp [Token.isOp, hkind, hvalue]

theorem closer?_of_sign (h : t.sign = .op mark) : t.closer? = closerOf? mark := by
  obtain ⟨hkind, hvalue⟩ := Prod.ext_iff.1 h
  simp only [Token.sign, Sign.op] at hkind hvalue
  simp [Token.closer?, hkind, hvalue]

/-- A plain token opens nothing and closes nothing. -/
theorem closes_nothing_of_isPlain (h : t.sign.isPlain = true) :
    t.closer? = none ∧ t.isCloser = false := by
  simp only [Sign.isPlain, Token.sign, Bool.or_eq_true, bne_iff_ne, Bool.not_eq_true'] at h
  by_cases hkind : t.kind = .op
  · have hvalue := h.resolve_left (by simp [hkind])
    simp only [List.contains_eq_mem, List.mem_cons, List.not_mem_nil, or_false,
      decide_eq_false_iff_not, not_or] at hvalue
    simp [Token.closer?, Token.isCloser, closerOf?, hkind, hvalue]
  · simp [Token.closer?, Token.isCloser, hkind]

/-- A closing delimiter closes and does not open. -/
theorem isCloser_of_sign (hpair : closerOf? opener = some closer) (h : t.sign = .op closer) :
    t.closer? = none ∧ t.isCloser = true ∧ t.value = closer := by
  obtain ⟨hkind, hvalue⟩ := Prod.ext_iff.1 h
  simp only [Token.sign, Sign.op] at hkind hvalue
  simp only [closerOf?] at hpair
  split_ifs at hpair <;> cases hpair <;>
    simp [Token.closer?, Token.isCloser, closerOf?, hkind, hvalue]

/-- The delimiters of the signs are paired. -/
inductive Balanced : List Sign → Prop
  | nil : Balanced []
  | plain {s : Sign} {rest : List Sign} : s.isPlain = true → Balanced rest → Balanced (s :: rest)
  | group {opener closer : String} {inner rest : List Sign} : closerOf? opener = some closer →
      Balanced inner → Balanced rest → Balanced (.op opener :: (inner ++ .op closer :: rest))

theorem Balanced.append {more : List Sign} (h : Balanced signs) (hmore : Balanced more) :
    Balanced (signs ++ more) := by
  induction h with
  | nil => exact hmore
  | plain hs _ ih => exact .plain hs ih
  | group hpair hinner _ _ ih =>
      rw [List.cons_append, List.append_assoc, List.cons_append]
      exact .group hpair hinner ih

/-- Signs none of which is a delimiter are balanced. -/
theorem Balanced.of_all_plain (h : ∀ s ∈ signs, s.isPlain = true) : Balanced signs := by
  induction signs with
  | nil => exact .nil
  | cons s signs ih =>
      obtain ⟨hs, hsigns⟩ := List.forall_mem_cons.1 h
      exact .plain hs (ih hsigns)

/-- Tokens of a group are an opening token, tokens inside, and a closing token. -/
theorem exists_group_tokens {inner : List Sign} {more : List Sign}
    (h : tokens.map Token.sign = .op opener :: (inner ++ .op closer :: more)) :
    ∃ t inside u after, tokens = t :: (inside ++ u :: after) ∧ t.sign = .op opener ∧
      inside.map Token.sign = inner ∧ u.sign = .op closer ∧ after.map Token.sign = more := by
  obtain ⟨t, tail, rfl, ht, htail⟩ := List.map_eq_cons_iff.1 h
  obtain ⟨inside, close, rfl, hinside, hclose⟩ := List.map_eq_append_iff.1 htail
  obtain ⟨u, after, rfl, hu, hafter⟩ := List.map_eq_cons_iff.1 hclose
  exact ⟨t, inside, u, after, rfl, ht, hinside, hu, hafter⟩

section Search

variable {opened : List Token} {place : Nat}

theorem searchClose_plain (h : t.sign.isPlain = true) :
    searchClose opened place (t :: rest) = searchClose opened (place + 1) rest := by
  obtain ⟨hopens, hcloses⟩ := closes_nothing_of_isPlain h
  rw [searchClose.eq_def]
  simp only [hopens, hcloses, Option.isSome_none, Bool.false_eq_true, if_false]

theorem searchClose_opener (hpair : closerOf? opener = some closer) (ht : t.sign = .op opener) :
    searchClose opened place (t :: rest) = searchClose (t :: opened) (place + 1) rest := by
  have hopens : t.closer? = some closer := (closer?_of_sign ht).trans hpair
  rw [searchClose.eq_def]
  simp only [hopens, Option.isSome_some, if_true]

theorem searchClose_closer (hpair : closerOf? opener = some closer) (ht : t.sign = .op opener)
    (hu : u.sign = .op closer) :
    searchClose (t :: opened) place (u :: rest) =
      if opened.isEmpty then .found place else searchClose opened (place + 1) rest := by
  have hopens : t.closer? = some closer := (closer?_of_sign ht).trans hpair
  obtain ⟨hnot, hcloses, hvalue⟩ := isCloser_of_sign hpair hu
  rw [searchClose]
  simp only [hopens, hnot, hcloses, hvalue, Option.isSome_none, Bool.false_eq_true, if_false,
    if_true]

/-- The search for a closing delimiter passes over what is balanced. -/
theorem searchClose_append (h : Balanced signs) (htokens : tokens.map Token.sign = signs)
    (o : Token) (opened : List Token) (place : Nat) :
    searchClose (o :: opened) place (tokens ++ rest) =
      searchClose (o :: opened) (place + tokens.length) rest := by
  induction h generalizing tokens rest o opened place with
  | nil =>
      obtain rfl := List.map_eq_nil_iff.1 htokens
      rfl
  | plain hs _ ih =>
      obtain ⟨t, tail, rfl, ht, htail⟩ := List.map_eq_cons_iff.1 htokens
      rw [List.cons_append, searchClose_plain (ht ▸ hs), ih htail, List.length_cons]
      congr 1
      omega
  | group hpair _ _ ihinner ihrest =>
      obtain ⟨t, inside, u, after, rfl, ht, hinside, hu, hafter⟩ := exists_group_tokens htokens
      rw [List.cons_append, List.append_assoc, List.cons_append, searchClose_opener hpair ht,
        ihinner hinside, searchClose_closer hpair ht hu, List.isEmpty_cons, if_neg (by simp),
        ihrest hafter]
      congr 1
      simp only [List.length_cons, List.length_append]
      omega

/-- The delimiter that closes a group is found behind its inside. -/
theorem searchClose_group (hpair : closerOf? opener = some closer) (h : Balanced signs)
    (ht : t.sign = .op opener) (htokens : tokens.map Token.sign = signs)
    (hu : u.sign = .op closer) (place : Nat) :
    searchClose [] place (t :: (tokens ++ u :: rest)) = .found (place + 1 + tokens.length) := by
  rw [searchClose_opener hpair ht, searchClose_append h htokens, searchClose_closer hpair ht hu,
    List.isEmpty_nil, if_pos rfl]

end Search

/-- A group that stands at a place is read with what is inside of it. -/
theorem group_eq (hpair : closerOf? opener = some closer) (h : Balanced signs)
    (ht : t.sign = .op opener) (htokens : tokens.map Token.sign = signs)
    (hu : u.sign = .op closer) (pos : Nat) :
    Recognizer.group opener ⟨t :: (tokens ++ u :: rest), pos⟩ =
      .found tokens ⟨rest, pos + (tokens.length + 2)⟩ := by
  have hsignificant : t.isSignificant = true := by
    rw [isSignificant_eq, ht]
    rfl
  have hskip : (Cursor.mk (t :: (tokens ++ u :: rest)) pos).skip =
      ⟨t :: (tokens ++ u :: rest), pos⟩ := by
    simp [Cursor.skip, Cursor.advance, hsignificant]
  -- what the search finds is the place of the closing delimiter
  have hclose : matchingClose (t :: (tokens ++ u :: rest)) 0 (t :: (tokens ++ u :: rest)).length =
      .ok (1 + tokens.length) := by
    rw [matchingClose, List.take_length, List.drop_zero,
      searchClose_group hpair h ht htokens hu, Nat.zero_add]
  have hopener : t.isOp opener = true := by simp [isOp_of_sign ht]
  simp only [Recognizer.group, hskip, hopener, if_true, hclose]
  congr 1
  · simp [Nat.add_comm 1]
  · simp only [Cursor.advance, Cursor.mk.injEq]
    exact ⟨by simp [Nat.add_comm 1], by omega⟩

section Statements

/-- Whether the sign may stand in a statement outside all groups. -/
def Sign.isInline (s : Sign) : Bool := s.isSignificant && s.isPlain && s != .op ";"

/-- The signs are those of a statement or a part of it: outside all groups there is no line break,
no comment and no semicolon. -/
inductive Inline : List Sign → Prop
  | nil : Inline []
  | plain {s : Sign} {rest : List Sign} : s.isInline = true → Inline rest → Inline (s :: rest)
  | group {opener closer : String} {inner rest : List Sign} : closerOf? opener = some closer →
      Balanced inner → Inline rest → Inline (.op opener :: (inner ++ .op closer :: rest))

theorem Inline.append {more : List Sign} (h : Inline signs) (hmore : Inline more) :
    Inline (signs ++ more) := by
  induction h with
  | nil => exact hmore
  | plain hs _ ih => exact .plain hs ih
  | group hpair hinner _ ih =>
      rw [List.cons_append, List.append_assoc, List.cons_append]
      exact .group hpair hinner ih

theorem Inline.balanced (h : Inline signs) : Balanced signs := by
  induction h with
  | nil => exact .nil
  | plain hs _ ih =>
      simp only [Sign.isInline, Bool.and_eq_true] at hs
      exact .plain hs.1.2 ih
  | group hpair hinner _ ih => exact .group hpair hinner ih

section Length

variable {opened : List Token} {last : Option Token} {count : Nat}

/-- An opening delimiter is the innermost from then on. -/
theorem statementLength_opener (hpair : closerOf? opener = some closer) (ht : t.sign = .op opener) :
    statementLength opened last count (t :: rest) =
      statementLength (t :: opened) (some t) (count + 1) rest := by
  have hkind : t.kind = .op := congrArg Prod.fst ht
  have hopens : t.closer? = some closer := (closer?_of_sign ht).trans hpair
  have hsemicolon : t.isOp ";" = false := by
    rw [isOp_of_sign ht, beq_eq_false_iff_ne]
    rintro rfl
    simp [closerOf?] at hpair
  rw [statementLength.eq_def]
  simp only [hkind, hsemicolon, hopens, reduceCtorEq, if_false, Bool.and_false, Bool.false_eq_true,
    Option.isSome_some, if_true]

/-- The delimiter that closes the innermost one ends its group. -/
theorem statementLength_closer (hpair : closerOf? opener = some closer) (ht : t.sign = .op opener)
    (hu : u.sign = .op closer) :
    statementLength (t :: opened) last count (u :: rest) =
      statementLength opened (some u) (count + 1) rest := by
  have hkind : u.kind = .op := congrArg Prod.fst hu
  have hopens : t.closer? = some closer := (closer?_of_sign ht).trans hpair
  obtain ⟨hnot, hcloses, hvalue⟩ := isCloser_of_sign hpair hu
  rw [statementLength]
  simp only [hkind, hopens, hnot, hcloses, hvalue, reduceCtorEq, if_false, List.isEmpty_cons,
    Bool.false_and, Bool.false_eq_true, Option.isSome_none, if_true]

/-- Inside of a group a token that is no delimiter is passed over. -/
theorem statementLength_plain (h : t.sign.isPlain = true) (o : Token) :
    ∃ last', statementLength (o :: opened) last count (t :: rest) =
      statementLength (o :: opened) last' (count + 1) rest := by
  obtain ⟨hopens, hcloses⟩ := closes_nothing_of_isPlain h
  rw [statementLength]
  simp only [List.isEmpty_cons, Bool.false_and, Bool.false_eq_true, if_false, hopens, hcloses,
    Option.isSome_none]
  split
  · exact ⟨last, rfl⟩
  · split
    · exact ⟨last, rfl⟩
    · exact ⟨some t, rfl⟩

/-- Outside all groups a token that may stand there is passed over. -/
theorem statementLength_inline (h : t.sign.isInline = true) :
    statementLength [] last count (t :: rest) = statementLength [] (some t) (count + 1) rest := by
  obtain ⟨hinline, hsemicolon⟩ := Bool.and_eq_true_iff.1 h
  obtain ⟨hsignificant, hplain⟩ := Bool.and_eq_true_iff.1 hinline
  obtain ⟨hopens, hcloses⟩ := closes_nothing_of_isPlain hplain
  simp only [Sign.isSignificant, Token.sign, Bool.and_eq_true, bne_iff_ne] at hsignificant
  have hop : t.isOp ";" = false := by
    simp only [Token.sign, Sign.op, bne_iff_ne, ne_eq, Prod.mk.injEq, not_and] at hsemicolon
    simpa [Token.isOp] using hsemicolon
  rw [statementLength]
  simp only [hsignificant, hop, hopens, hcloses, if_false, Bool.and_false, Bool.false_eq_true,
    Option.isSome_none]

/-- Inside of a group the reading of a statement passes over what is balanced. -/
theorem statementLength_inside (h : Balanced signs) (htokens : tokens.map Token.sign = signs)
    (o : Token) (opened : List Token) (last : Option Token) (count : Nat) :
    ∃ last', statementLength (o :: opened) last count (tokens ++ rest) =
      statementLength (o :: opened) last' (count + tokens.length) rest := by
  induction h generalizing tokens rest o opened last count with
  | nil =>
      obtain rfl := List.map_eq_nil_iff.1 htokens
      exact ⟨last, rfl⟩
  | plain hs _ ih =>
      obtain ⟨t, tail, rfl, ht, htail⟩ := List.map_eq_cons_iff.1 htokens
      obtain ⟨last₁, hlast₁⟩ : ∃ last', statementLength (o :: opened) last count
          (t :: (tail ++ rest)) = statementLength (o :: opened) last' (count + 1) (tail ++ rest) :=
        statementLength_plain (ht ▸ hs) o
      obtain ⟨last₂, hlast₂⟩ := ih htail o opened last₁ (count + 1)
      refine ⟨last₂, ?_⟩
      rw [List.cons_append, hlast₁, hlast₂, List.length_cons]
      congr 1
      omega
  | group hpair _ _ ihinner ihrest =>
      obtain ⟨t, inside, u, after, rfl, ht, hinside, hu, hafter⟩ := exists_group_tokens htokens
      obtain ⟨last₁, hlast₁⟩ := @ihinner _ (u :: (after ++ rest)) hinside t (o :: opened) (some t)
        (count + 1)
      obtain ⟨last₂, hlast₂⟩ := @ihrest _ rest hafter o opened (some u)
        (count + 1 + inside.length + 1)
      refine ⟨last₂, ?_⟩
      rw [List.cons_append, List.append_assoc, List.cons_append, statementLength_opener hpair ht,
        hlast₁, statementLength_closer hpair ht hu, hlast₂]
      congr 1
      simp only [List.length_cons, List.length_append]
      omega

/-- Outside all groups the reading of a statement passes over the signs of a statement. -/
theorem statementLength_append (h : Inline signs) (htokens : tokens.map Token.sign = signs)
    (last : Option Token) (count : Nat) :
    statementLength [] last count (tokens ++ rest) =
      statementLength [] (tokens.getLast?.or last) (count + tokens.length) rest := by
  induction h generalizing tokens last count with
  | nil =>
      obtain rfl := List.map_eq_nil_iff.1 htokens
      rfl
  | plain hs _ ih =>
      obtain ⟨t, tail, rfl, ht, htail⟩ := List.map_eq_cons_iff.1 htokens
      rw [List.cons_append, statementLength_inline (ht ▸ hs), ih htail, List.length_cons,
        List.getLast?_cons]
      congr 1
      · cases tail.getLast? <;> rfl
      · omega
  | group hpair hinner _ ih =>
      obtain ⟨t, inside, u, after, rfl, ht, hinside, hu, hafter⟩ := exists_group_tokens htokens
      -- what was last inside of the group does not matter, since its closing delimiter follows
      obtain ⟨last', hlast'⟩ := @statementLength_inside _ (u :: (after ++ rest)) _ hinner hinside
        t [] (some t) (count + 1)
      rw [List.cons_append, List.append_assoc, List.cons_append, statementLength_opener hpair ht,
        hlast', statementLength_closer hpair ht hu, ih hafter]
      congr 1
      · rw [List.getLast?_cons, List.getLast?_append, List.getLast?_cons]
        cases after.getLast? <;> rfl
      · simp only [List.length_cons, List.length_append]
        omega

end Length

/-- Whether the sign is an operator that carries a statement on to the next line. -/
def Sign.carriesOn (s : Sign) : Bool := s.1 == .op && carryingOn.contains s.2

/-- The signs are a whole statement: it starts with an identifier and does not go on over the end
of its line. -/
structure IsStatement (signs : List Sign) : Prop where
  inline : Inline signs
  starts : ∃ name tail, signs = .ident name :: tail
  ends : ∀ s ∈ signs.getLast?, s.carriesOn = false

/-- Signs of a text with its statements, which stand between line breaks and comments. -/
inductive Layout : List Sign → List (List Sign) → Prop
  | nil : Layout [] []
  | gap {s : Sign} {rest : List Sign} {statements : List (List Sign)} : s.isSignificant = false →
      Layout rest statements → Layout (s :: rest) statements
  | last {statement : List Sign} : IsStatement statement → Layout statement [statement]
  | statement {statement rest : List Sign} {statements : List (List Sign)} : IsStatement statement →
      Layout rest statements → Layout (statement ++ .newline :: rest) (statement :: statements)

theorem Layout.balanced {statements : List (List Sign)} (h : Layout signs statements) :
    Balanced signs := by
  induction h with
  | nil => exact .nil
  | gap hs _ ih =>
      refine .plain ?_ ih
      simp only [Sign.isSignificant, Bool.and_eq_false_iff, bne_eq_false_iff_eq] at hs
      rcases hs with hs | hs <;> simp [Sign.isPlain, hs]
  | last hstatement => exact hstatement.inline.balanced
  | statement hstatement _ ih => exact hstatement.inline.balanced.append (.plain rfl ih)

/-- Statements that stand on a line each are laid out. -/
theorem layout_lines {statements : List (List Sign)} (h : ∀ s ∈ statements, IsStatement s) :
    Layout (statements.flatMap (· ++ [.newline])) statements := by
  induction statements with
  | nil => exact .nil
  | cons statement statements ih =>
      obtain ⟨hstatement, hrest⟩ := List.forall_mem_cons.1 h
      rw [List.flatMap_cons, List.append_assoc]
      exact .statement hstatement (ih hrest)

/-- No operator at the head of the tokens carries on what stands before them. -/
def StartsAnew (tokens : List Token) : Prop :=
  ((tokens.find? Token.isSignificant).any fun t =>
    t.kind == .op && carriedOn.contains t.value) = false

/-- No statement of a layout carries on what stands before it. -/
theorem Layout.starts_anew {statements : List (List Sign)} (h : Layout signs statements)
    (htokens : tokens.map Token.sign = signs) : StartsAnew tokens := by
  have hstart : ∀ {statement : List Sign} {tokens rest : List Token}, IsStatement statement →
      tokens.map Token.sign = statement → StartsAnew (tokens ++ rest) := by
    intro statement tokens rest hstatement htokens
    obtain ⟨name, tail, rfl⟩ := hstatement.starts
    obtain ⟨t, more, rfl, ht, -⟩ := List.map_eq_cons_iff.1 htokens
    have hkind : t.kind = .ident := congrArg Prod.fst ht
    simp [StartsAnew, Token.isSignificant, hkind]
  induction h generalizing tokens with
  | nil =>
      obtain rfl := List.map_eq_nil_iff.1 htokens
      rfl
  | gap hs _ ih =>
      obtain ⟨t, tail, rfl, ht, htail⟩ := List.map_eq_cons_iff.1 htokens
      rw [← ht, ← isSignificant_eq] at hs
      rw [StartsAnew, List.find?_cons_of_neg (by simp [hs])]
      exact ih htail
  | last hstatement => simpa using @hstart _ tokens [] hstatement htokens
  | statement hstatement _ _ =>
      obtain ⟨first, more, rfl, hfirst, -⟩ := List.map_eq_append_iff.1 htokens
      exact hstart hstatement hfirst

/-- What goes on over no line break is as long as its signs at the end of a line. -/
theorem statementLength_line (hinline : Inline signs)
    (hends : ∀ s ∈ signs.getLast?, s.carriesOn = false) (htokens : tokens.map Token.sign = signs)
    (hrest : rest = [] ∨ ∃ nl after, rest = nl :: after ∧ nl.kind = .newline ∧ StartsAnew after) :
    statementLength [] none 0 (tokens ++ rest) = .ok tokens.length := by
  rw [statementLength_append hinline htokens, Option.or_none, Nat.zero_add]
  rcases hrest with rfl | ⟨nl, after, rfl, hkind, hanew⟩
  · rfl
  · -- neither the end of the line nor what follows the line break carries it on
    have hlast : ∀ t ∈ tokens.getLast?, (t.kind == .op && carryingOn.contains t.value) = false := by
      intro t ht
      refine hends t.sign ?_
      rw [← htokens, List.getLast?_map, Option.mem_def.1 ht]
      rfl
    have hgoesOn : goesOn tokens.getLast? after = false := by
      simp only [goesOn, Bool.or_eq_false_iff]
      refine ⟨?_, hanew⟩
      cases ht : tokens.getLast? with
      | none => rfl
      | some t => simpa using hlast t ht
    rw [statementLength]
    simp [hkind, hgoesOn, Token.isOp]

/-- A statement is as long as its signs when it stands at the end of a line. -/
theorem statementLength_statement (h : IsStatement signs) (htokens : tokens.map Token.sign = signs)
    (hrest : rest = [] ∨ ∃ nl after, rest = nl :: after ∧ nl.kind = .newline ∧ StartsAnew after) :
    statementLength [] none 0 (tokens ++ rest) = .ok tokens.length :=
  statementLength_line h.inline h.ends htokens hrest

/-- The tokens of a statement are passed over when the statement was read. -/
theorem splitFrom_skip (tokens rest : List Token) (place : Nat) :
    splitFrom tokens.length place (tokens ++ rest) = splitFrom 0 (place + tokens.length) rest := by
  induction tokens generalizing place with
  | nil => rfl
  | cons t tokens ih =>
      rw [List.length_cons, List.cons_append, splitFrom, ih]
      congr 1
      omega

/-- A statement at the end of a line is split off. -/
theorem splitFrom_statement (h : IsStatement signs) (htokens : tokens.map Token.sign = signs)
    (hrest : rest = [] ∨ ∃ nl after, rest = nl :: after ∧ nl.kind = .newline ∧ StartsAnew after)
    (place : Nat) :
    splitFrom 0 place (tokens ++ rest) =
      (splitFrom 0 (place + tokens.length) rest).map ((place, place + tokens.length) :: ·) := by
  have hlength := statementLength_statement h htokens hrest
  obtain ⟨name, tail, rfl⟩ := h.starts
  obtain ⟨t, more, rfl, ht, -⟩ := List.map_eq_cons_iff.1 htokens
  have hkind : t.kind = .ident := congrArg Prod.fst ht
  have hseparator : t.isSeparator = false := by simp [Token.isSeparator, Token.isOp, hkind]
  rw [List.cons_append] at hlength ⊢
  rw [splitFrom, hlength]
  simp only [hseparator, Bool.false_eq_true, if_false, List.length_cons, Nat.add_sub_cancel]
  rw [splitFrom_skip]
  congr 2
  omega

/-- The places of the statements of a layout cut its tokens into the statements. -/
theorem splitFrom_layout {statements : List (List Sign)} (h : Layout signs statements)
    (htokens : tokens.map Token.sign = signs) (before : List Token) :
    ∃ ranges, splitFrom 0 before.length tokens = .ok ranges ∧
      (ranges.map fun r => (((before ++ tokens).take r.2).drop r.1).map Token.sign) =
        statements := by
  induction h generalizing tokens before with
  | nil =>
      obtain rfl := List.map_eq_nil_iff.1 htokens
      exact ⟨[], rfl, rfl⟩
  | gap hs _ ih =>
      obtain ⟨t, tail, rfl, ht, htail⟩ := List.map_eq_cons_iff.1 htokens
      rw [← ht] at hs
      have hseparator : t.isSeparator = true := by
        simp only [Sign.isSignificant, Token.sign, Bool.and_eq_false_iff, bne_eq_false_iff_eq] at hs
        rcases hs with hkind | hkind <;> simp [Token.isSeparator, hkind]
      -- places count from the start of all tokens, so what was split off stays in front
      obtain ⟨ranges, hranges, hpieces⟩ := ih htail (before ++ [t])
      refine ⟨ranges, ?_, by simpa using hpieces⟩
      rw [splitFrom, if_pos hseparator]
      simpa using hranges
  | @last statement hstatement =>
      have hsplit := splitFrom_statement hstatement htokens (.inl rfl) before.length
      rw [List.append_nil] at hsplit
      refine ⟨[(before.length, before.length + tokens.length)], by rw [hsplit]; rfl, ?_⟩
      subst htokens
      simp [List.take_append]
  | statement hstatement hlayout ih =>
      obtain ⟨first, more, rfl, hfirst, hmore⟩ := List.map_eq_append_iff.1 htokens
      obtain ⟨nl, after, rfl, hnl, hafter⟩ := List.map_eq_cons_iff.1 hmore
      have hkind : nl.kind = .newline := congrArg Prod.fst hnl
      have hsplit := splitFrom_statement hstatement hfirst
        (.inr ⟨nl, after, rfl, hkind, hlayout.starts_anew hafter⟩) before.length
      obtain ⟨ranges, hranges, hpieces⟩ := ih hafter (before ++ (first ++ [nl]))
      refine ⟨(before.length, before.length + first.length) :: ranges, ?_, ?_⟩
      · have hseparator : nl.isSeparator = true := by simp [Token.isSeparator, hkind]
        rw [hsplit, splitFrom, if_pos hseparator]
        simp only [List.length_append, List.length_singleton] at hranges
        rw [Nat.add_assoc, hranges]
        rfl
      · simp only [List.append_assoc, List.cons_append, List.nil_append] at hpieces
        rw [List.map_cons, hpieces]
        simp [List.take_append, hfirst]

/-- The tokens of a layout are split into its statements. -/
theorem split_layout {statements : List (List Sign)} (h : Layout signs statements)
    (htokens : tokens.map Token.sign = signs) :
    ∃ pieces, split tokens = .ok pieces ∧ pieces.map (List.map Token.sign) = statements := by
  obtain ⟨ranges, hranges, hpieces⟩ := splitFrom_layout h htokens []
  rw [List.length_nil] at hranges
  refine ⟨_, by rw [split, hranges]; rfl, ?_⟩
  simpa [Function.comp_def] using hpieces

end Statements

section Cuts

variable {operator : String}

/-- Whether all signs are significant. -/
def AllSignificant (signs : List Sign) : Prop := ∀ s ∈ signs, s.isSignificant = true

/-- Outside all groups the signs hold no given operator. -/
inductive Uncut (operator : String) : List Sign → Prop
  | nil : Uncut operator []
  | plain {s : Sign} {rest : List Sign} : s.isPlain = true → s ≠ .op operator →
      Uncut operator rest → Uncut operator (s :: rest)
  | group {opener closer : String} {inner rest : List Sign} : closerOf? opener = some closer →
      Balanced inner → Uncut operator rest →
      Uncut operator (.op opener :: (inner ++ .op closer :: rest))

theorem Uncut.append {more : List Sign} (h : Uncut operator signs) (hmore : Uncut operator more) :
    Uncut operator (signs ++ more) := by
  induction h with
  | nil => exact hmore
  | plain hs hne _ ih => exact .plain hs hne ih
  | group hpair hinner _ ih =>
      rw [List.cons_append, List.append_assoc, List.cons_append]
      exact .group hpair hinner ih

theorem Uncut.balanced (h : Uncut operator signs) : Balanced signs := by
  induction h with
  | nil => exact .nil
  | plain hs _ _ ih => exact .plain hs ih
  | group hpair hinner _ ih => exact .group hpair hinner ih

theorem depthChange_of_isPlain (h : t.sign.isPlain = true) : t.depthChange = 0 := by
  obtain ⟨hopens, hcloses⟩ := closes_nothing_of_isPlain h
  simp [Token.depthChange, hopens, hcloses]

theorem depthChange_of_opener (hpair : closerOf? opener = some closer) (h : t.sign = .op opener) :
    t.depthChange = 1 := by
  have hopens : t.closer? = some closer := (closer?_of_sign h).trans hpair
  simp [Token.depthChange, hopens]

theorem depthChange_of_closer (hpair : closerOf? opener = some closer) (h : t.sign = .op closer) :
    t.depthChange = -1 := by
  obtain ⟨hopens, hcloses, -⟩ := isCloser_of_sign hpair h
  simp [Token.depthChange, hopens, hcloses]

/-- A token that is no operator outside all groups goes to the piece. -/
theorem cutFrom_token (h : t.sign.isSignificant = true) {depth inner : Int}
    (hinner : depth + t.depthChange = inner) (hcut : inner = 0 → t.isOp operator = false)
    (piece : List Token) :
    cutFrom operator depth piece (t :: rest) = cutFrom operator inner (t :: piece) rest := by
  have hnot : (decide (inner = 0) && t.isOp operator) = false := by
    by_cases hzero : inner = 0
    · rw [hcut hzero, Bool.and_false]
    · simp [hzero]
  rw [cutFrom, isSignificant_eq, if_pos h]
  simp only [hinner, hnot, Bool.false_eq_true, if_false]

/-- The signs of a group are significant outside and inside. -/
theorem AllSignificant.of_group {inner more : List Sign}
    (h : AllSignificant (.op opener :: (inner ++ .op closer :: more))) :
    AllSignificant inner ∧ AllSignificant more :=
  ⟨fun s hs => h s (List.mem_cons_of_mem _ (List.mem_append_left _ hs)), fun s hs =>
    h s (List.mem_cons_of_mem _ (List.mem_append_right _ (List.mem_cons_of_mem _ hs)))⟩

/-- Inside of a group nothing is cut. -/
theorem cutFrom_inside (h : Balanced signs) (hsignificant : AllSignificant signs)
    (htokens : tokens.map Token.sign = signs) {depth : Int} (hdepth : 0 < depth)
    (piece : List Token) :
    cutFrom operator depth piece (tokens ++ rest) =
      cutFrom operator depth (tokens.reverse ++ piece) rest := by
  induction h generalizing tokens rest depth piece with
  | nil =>
      obtain rfl := List.map_eq_nil_iff.1 htokens
      rfl
  | plain hs _ ih =>
      obtain ⟨t, tail, rfl, ht, htail⟩ := List.map_eq_cons_iff.1 htokens
      obtain ⟨hsign, hall⟩ := List.forall_mem_cons.1 hsignificant
      have hsame : depth + t.depthChange = depth := by
        rw [depthChange_of_isPlain (ht ▸ hs), add_zero]
      rw [List.cons_append, cutFrom_token (ht ▸ hsign) hsame (by omega), ih hall htail hdepth]
      simp
  | group hpair _ _ ihinner ihrest =>
      obtain ⟨t, inside, u, after, rfl, ht, hinside, hu, hafter⟩ := exists_group_tokens htokens
      obtain ⟨hinner, hrest⟩ := hsignificant.of_group
      have hdown : depth + t.depthChange = depth + 1 := by rw [depthChange_of_opener hpair ht]
      have hup : depth + 1 + u.depthChange = depth := by
        rw [depthChange_of_closer hpair hu]
        omega
      rw [List.cons_append, List.append_assoc, List.cons_append,
        cutFrom_token (ht ▸ rfl) hdown (by omega), ihinner hinner hinside (by omega),
        cutFrom_token (hu ▸ rfl) hup (by omega), ihrest hrest hafter hdepth]
      simp

/-- What holds no given operator outside all groups stays in one piece. -/
theorem cutFrom_uncut (hoperator : (Sign.op operator).isPlain = true) (h : Uncut operator signs)
    (hsignificant : AllSignificant signs) (htokens : tokens.map Token.sign = signs)
    (piece : List Token) :
    cutFrom operator 0 piece (tokens ++ rest) =
      cutFrom operator 0 (tokens.reverse ++ piece) rest := by
  induction h generalizing tokens piece with
  | nil =>
      obtain rfl := List.map_eq_nil_iff.1 htokens
      rfl
  | plain hs hne _ ih =>
      obtain ⟨t, tail, rfl, ht, htail⟩ := List.map_eq_cons_iff.1 htokens
      obtain ⟨hsign, hall⟩ := List.forall_mem_cons.1 hsignificant
      have hsame : (0 : Int) + t.depthChange = 0 := by
        rw [depthChange_of_isPlain (ht ▸ hs), add_zero]
      have hop : t.isOp operator = false := by
        simp only [← ht, Token.sign, Sign.op, ne_eq, Prod.mk.injEq, not_and] at hne
        simpa [Token.isOp] using hne
      rw [List.cons_append, cutFrom_token (ht ▸ hsign) hsame fun _ => hop, ih hall htail]
      simp
  | group hpair hbalanced _ ih =>
      obtain ⟨t, inside, u, after, rfl, ht, hinside, hu, hafter⟩ := exists_group_tokens htokens
      obtain ⟨hinner, hrest⟩ := hsignificant.of_group
      have hdown : (0 : Int) + t.depthChange = 1 := by rw [depthChange_of_opener hpair ht, zero_add]
      have hup : (1 : Int) + u.depthChange = 0 := by
        rw [depthChange_of_closer hpair hu]
        rfl
      -- the closing delimiter stands outside all groups, but it is not where is cut
      have huop : u.isOp operator = false := by
        rw [isOp_of_sign hu, beq_eq_false_iff_ne]
        rintro rfl
        simp only [closerOf?] at hpair
        split_ifs at hpair <;> cases hpair <;> simp [Sign.isPlain, Sign.op] at hoperator
      rw [List.cons_append, List.append_assoc, List.cons_append,
        cutFrom_token (ht ▸ rfl) hdown (by omega), cutFrom_inside hbalanced hinner hinside one_pos,
        cutFrom_token (hu ▸ rfl) hup fun _ => huop, ih hrest hafter]
      simp

/-- Parts that hold no operator outside all groups are cut apart where the operator joins them. -/
theorem splitTopLevel_intercalate (hoperator : (Sign.op operator).isPlain = true)
    {first : List Sign} {parts : List (List Sign)}
    (huncut : ∀ part ∈ first :: parts, Uncut operator part)
    (hsignificant : ∀ part ∈ first :: parts, AllSignificant part)
    (htokens : tokens.map Token.sign = List.intercalate [.op operator] (first :: parts)) :
    (splitTopLevel operator tokens).map (List.map Token.sign) = first :: parts := by
  induction parts generalizing first tokens with
  | nil =>
      rw [List.intercalate_singleton] at htokens
      have hcut := @cutFrom_uncut _ [] _ _ hoperator (huncut first List.mem_cons_self)
        (hsignificant first List.mem_cons_self) htokens []
      rw [List.append_nil, List.append_nil] at hcut
      simp [splitTopLevel, hcut, cutFrom, htokens]
  | cons second parts ih =>
      obtain ⟨hfirst, hparts⟩ := List.forall_mem_cons.1 huncut
      obtain ⟨hsign, hsigns⟩ := List.forall_mem_cons.1 hsignificant
      rw [List.intercalate_cons_cons, List.append_assoc] at htokens
      obtain ⟨front, more, rfl, hfront, hmore⟩ := List.map_eq_append_iff.1 htokens
      obtain ⟨t, after, rfl, ht, hafter⟩ := List.map_eq_cons_iff.1 hmore
      have hop : t.isOp operator = true := by simp [isOp_of_sign ht]
      have hts : t.isSignificant = true := by rw [isSignificant_eq, ht]; rfl
      have hplain := closes_nothing_of_isPlain (t := t) (ht ▸ hoperator)
      have hdepth : (0 : Int) + t.depthChange = 0 := by simp [Token.depthChange, hplain]
      -- the first part stays whole, and the operator behind it cuts
      rw [splitTopLevel, cutFrom_uncut hoperator hfirst hsign hfront, cutFrom]
      simp only [hts, hdepth, hop, if_true, decide_true, Bool.and_self]
      rw [List.map_cons, ← splitTopLevel, ih hparts hsigns hafter]
      simp [hfront]

/-- The arguments of a call are what stands between its commas. -/
theorem splitArguments_intercalate {first : List Sign} {parts : List (List Sign)}
    (huncut : ∀ part ∈ first :: parts, Uncut "," part)
    (hsignificant : ∀ part ∈ first :: parts, AllSignificant part)
    (hne : ∀ part ∈ first :: parts, part ≠ [])
    (htokens : tokens.map Token.sign = List.intercalate [.op ","] (first :: parts)) :
    (splitArguments tokens).map (List.map Token.sign) = first :: parts := by
  have hsplit := splitTopLevel_intercalate rfl huncut hsignificant htokens
  have hlast : (splitTopLevel "," tokens).getLast? ≠ some [] := by
    intro hnil
    have hmem := List.mem_of_getLast? hnil
    refine hne [] ?_ rfl
    rw [← hsplit]
    exact List.mem_map.2 ⟨[], hmem, rfl⟩
  rw [splitArguments, if_neg hlast, hsplit]

/-- A string literal alone is the only argument. -/
theorem splitArguments_string {value : String} (h : tokens.map Token.sign = [.string value]) :
    ∃ t : Token, splitArguments tokens = [[t]] ∧ t.sign = .string value := by
  have hpieces : (splitArguments tokens).map (List.map Token.sign) = [[.string value]] := by
    refine splitArguments_intercalate ?_ ?_ ?_ h
    · simpa using .plain rfl (by simp [Sign.string, Sign.op]) .nil
    · simp [AllSignificant, Sign.isSignificant, Sign.string]
    · simp
  obtain ⟨piece, rest, hsplit, hpiece, hrest⟩ := List.map_eq_cons_iff.1 hpieces
  obtain rfl := List.map_eq_nil_iff.1 hrest
  obtain ⟨t, tail, rfl, ht, htail⟩ := List.map_eq_cons_iff.1 hpiece
  obtain rfl := List.map_eq_nil_iff.1 htail
  exact ⟨t, hsplit, ht⟩

/-- Tokens that are one string literal each are read as their texts. -/
theorem mapM_string_token {pieces : List (List Token)} {values : List String}
    (h : pieces.map (List.map Token.sign) = values.map fun v => [Sign.string v]) :
    (pieces.mapM fun
      | [t] => if t.kind = .string then some t.value else none
      | _ => none) = some values := by
  induction values generalizing pieces with
  | nil =>
      obtain rfl := List.map_eq_nil_iff.1 h
      rfl
  | cons v values ih =>
      obtain ⟨piece, more, rfl, hpiece, hmore⟩ := List.map_eq_cons_iff.1 h
      obtain ⟨t, tail, rfl, ht, htail⟩ := List.map_eq_cons_iff.1 hpiece
      obtain rfl := List.map_eq_nil_iff.1 htail
      obtain ⟨hkind, hvalue⟩ := Prod.ext_iff.1 ht
      simp only [Token.sign, Sign.string] at hkind hvalue
      rw [List.mapM_cons, ih hmore]
      simp [hkind, hvalue]

/-- String literals between commas are read as their texts. -/
theorem stringArguments?_intercalate {values : List String}
    (htokens : tokens.map Token.sign =
      List.intercalate [.op ","] (values.map fun v => [Sign.string v])) :
    stringArguments? tokens = some values := by
  cases values with
  | nil =>
      obtain rfl := List.map_eq_nil_iff.1 htokens
      rfl
  | cons first more =>
      have hall : ∀ part ∈ (first :: more).map (fun v => [Sign.string v]),
          ∃ v, part = [Sign.string v] := by
        intro part hpart
        obtain ⟨v, -, rfl⟩ := List.mem_map.1 hpart
        exact ⟨v, rfl⟩
      refine mapM_string_token (splitArguments_intercalate ?_ ?_ ?_ htokens)
      · intro part hpart
        obtain ⟨v, rfl⟩ := hall part hpart
        exact .plain rfl (by simp [Sign.string, Sign.op]) .nil
      · intro part hpart
        obtain ⟨v, rfl⟩ := hall part hpart
        exact fun s hs => List.mem_singleton.1 hs ▸ rfl
      · intro part hpart
        obtain ⟨v, rfl⟩ := hall part hpart
        simp

end Cuts

section Parentheses

/-- No parentheses enclose all of the signs. -/
def Bare (signs : List Sign) : Prop :=
  signs.head? ≠ some (.op "(") ∨ signs.getLast? ≠ some (.op ")") ∨
    ∃ inner rest, signs = .op "(" :: (inner ++ .op ")" :: rest) ∧ Balanced inner ∧ rest ≠ []

theorem head?_isOp (htokens : tokens.map Token.sign = signs) (mark : String) :
    tokens.head?.any (·.isOp mark) = (signs.head? == some (.op mark)) := by
  subst htokens
  cases tokens with
  | nil => rfl
  | cons t tokens => rfl

theorem getLast?_isOp (htokens : tokens.map Token.sign = signs) (mark : String) :
    tokens.getLast?.any (·.isOp mark) = (signs.getLast? == some (.op mark)) := by
  subst htokens
  rw [List.getLast?_map]
  cases tokens.getLast? with
  | none => rfl
  | some t => rfl

/-- Parentheses that enclose all tokens are taken off. -/
theorem unwrap_parens (h : Balanced signs) (ht : t.sign = .op "(")
    (htokens : tokens.map Token.sign = signs) (hu : u.sign = .op ")") (count : Nat) :
    unwrap (count + 1) (t :: (tokens ++ [u])) = unwrap count tokens := by
  have hclose := @searchClose_group _ _ _ [] _ _ _ rfl h ht htokens hu 0
  rw [unwrap, hclose]
  have htop : t.isOp "(" = true := by simp [isOp_of_sign ht]
  have huop : u.isOp ")" = true := by simp [isOp_of_sign hu]
  simp [htop, huop, List.getLast?_cons, Nat.add_comm 1]

/-- Where no parentheses enclose all tokens, none are taken off. -/
theorem unwrap_bare (h : Bare signs) (htokens : tokens.map Token.sign = signs) (count : Nat) :
    unwrap count tokens = tokens := by
  cases count with
  | zero => rfl
  | succ count =>
      rw [unwrap, head?_isOp htokens, getLast?_isOp htokens]
      rcases h with h | h | ⟨inner, rest, rfl, hinner, hrest⟩
      · simp [h]
      · simp [h]
      · obtain ⟨t, inside, u, after, rfl, ht, hinside, hu, hafter⟩ := exists_group_tokens htokens
        have hclose := @searchClose_group _ _ _ after _ _ _ rfl hinner ht hinside hu 0
        -- the first parenthesis is closed before the end, so it does not enclose all
        have hlength : 0 < after.length := by
          rw [← hafter] at hrest
          exact List.length_pos_iff.2 fun hnil => hrest (by simp [hnil])
        have hne : (CloseSearch.found (0 + 1 + inside.length) ==
            .found ((t :: (inside ++ u :: after)).length - 1)) = false := by
          simp only [List.length_cons, List.length_append, beq_eq_false_iff_ne, ne_eq,
            CloseSearch.found.injEq]
          omega
        rw [hclose, hne, Bool.and_false]
        rfl

theorem filter_isSignificant (h : AllSignificant signs) (htokens : tokens.map Token.sign = signs) :
    tokens.filter Token.isSignificant = tokens := by
  refine List.filter_eq_self.2 fun t ht => ?_
  rw [isSignificant_eq]
  exact h _ (htokens ▸ List.mem_map_of_mem ht)

/-- Bare tokens are left as they are. -/
theorem stripParens_bare (h : Bare signs) (hsignificant : AllSignificant signs)
    (htokens : tokens.map Token.sign = signs) : stripParens tokens = tokens := by
  rw [stripParens, filter_isSignificant hsignificant htokens, unwrap_bare h htokens]

/-- Bare tokens are freed of the parentheses around them. -/
theorem stripParens_parens (h : Bare signs) (hbalanced : Balanced signs)
    (hsignificant : AllSignificant signs)
    (htokens : tokens.map Token.sign = .op "(" :: (signs ++ [.op ")"])) :
    (stripParens tokens).map Token.sign = signs := by
  obtain ⟨t, inside, u, after, rfl, ht, hinside, hu, hafter⟩ := exists_group_tokens htokens
  obtain rfl := List.map_eq_nil_iff.1 hafter
  have hall : AllSignificant (.op "(" :: (signs ++ [.op ")"])) := by
    intro s hs
    simp only [List.mem_cons, List.mem_append, List.not_mem_nil, or_false] at hs
    rcases hs with rfl | hs | rfl
    · rfl
    · exact hsignificant s hs
    · rfl
  rw [stripParens, filter_isSignificant hall htokens, List.length_cons,
    unwrap_parens hbalanced ht hinside hu, unwrap_bare h hinside, hinside]

end Parentheses

end BuildGraph.Script
