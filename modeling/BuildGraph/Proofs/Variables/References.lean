import BuildGraph.Proofs.Order.HardEdges
import BuildGraph.Proofs.Script.Front
import BuildGraph.Variables.Reference

/-!
# References in texts

Taking a text apart finds every reference that stands in it: `mem_references_iff`. A reference holds
no dollar sign but its first character, so that none of two references reaches into the other, and
what stands before and behind one is taken apart by itself: `piecesFrom_append_reference`.
`substitution_spec` says what follows for substitution.
-/

namespace BuildGraph

open Script (isIdentifier)

variable {cs more name : List Char} {ps : List Piece} {text before after : String}
  {values : Table String String}

section Pieces

/-- The characters of a part of a text. -/
def Piece.chars : Piece → List Char
  | plain c => [c]
  | reference name => referenceChars name

theorem isIdentifierChar_of_mem (h : isIdentifier name = true) {c : Char} (hc : c ∈ name) :
    isIdentifierChar c = true := by
  cases name with
  | nil => cases hc
  | cons x rest =>
      rw [isIdentifier, Bool.and_eq_true, List.all_eq_true] at h
      rcases List.mem_cons.1 hc with rfl | hc
      · exact (isIdentifierStart_iff.1 h.1).1
      · exact h.2 c hc

/-- A text starts with a reference to a name exactly if this is an identifier and the characters of
the reference are the first ones of the text. -/
theorem referenceAt?_eq_some_iff :
    referenceAt? cs = some name ↔ isIdentifier name = true ∧ referenceChars name <+: cs := by
  constructor
  · intro h
    unfold referenceAt? at h
    split at h
    · next rest =>
        dsimp only at h
        split at h
        · next hname =>
            obtain rfl := Option.some.inj h
            rw [Bool.and_eq_true, beq_iff_eq] at hname
            obtain ⟨hstart, hend⟩ := hname
            have hsplit := List.takeWhile_append_dropWhile (p := isIdentifierChar) (l := rest)
            rw [← hsplit, List.drop_left' (by rw [hsplit])] at hend
            obtain ⟨tail, htail⟩ := List.head?_eq_some_iff.1 hend
            refine ⟨?_, tail, ?_⟩
            · cases hfirst : rest.takeWhile isIdentifierChar with
              | nil => simp [hfirst] at hstart
              | cons c inner =>
                  rw [hfirst] at hstart
                  have hall := List.all_takeWhile (p := isIdentifierChar) (l := rest)
                  rw [hfirst, List.all_cons, Bool.and_eq_true] at hall
                  rw [isIdentifier, hall.2, Bool.and_true]
                  simpa using hstart
            · conv_rhs => rw [← hsplit, htail]
              simp [referenceChars]
        · cases h
    · cases h
  · rintro ⟨hname, tail, rfl⟩
    have htake : (name ++ '\x7d' :: tail).takeWhile isIdentifierChar = name := by
      rw [List.takeWhile_append_of_pos fun c hc => isIdentifierChar_of_mem hname hc]
      simp [isIdentifierChar, Char.isAlphanum, Char.isAlpha, Char.isUpper, Char.isLower,
        Char.isDigit]
    have hstart : name.head?.any isIdentifierStart = true := by
      cases name with
      | nil => cases hname
      | cons c rest =>
          rw [isIdentifier, Bool.and_eq_true] at hname
          simpa using hname.1
    have hchars : referenceChars name ++ tail = '$' :: '\x7b' :: (name ++ '\x7d' :: tail) := by
      simp [referenceChars]
    rw [hchars, referenceAt?]
    simp [htake, hstart]

theorem piecesFrom_eq_drop (skip : Nat) (cs : List Char) :
    piecesFrom skip cs = piecesFrom 0 (cs.drop skip) := by
  induction cs generalizing skip with
  | nil => simp [piecesFrom]
  | cons c cs ih =>
      cases skip with
      | zero => rfl
      | succ skip => rw [piecesFrom, ih, List.drop_succ_cons]

/-- A reference in front is a part by itself. -/
theorem piecesFrom_reference (h : isIdentifier name = true) (cs : List Char) :
    piecesFrom 0 (referenceChars name ++ cs) = .reference name :: piecesFrom 0 cs := by
  have hat : referenceAt? (referenceChars name ++ cs) = some name :=
    referenceAt?_eq_some_iff.2 ⟨h, List.prefix_append _ _⟩
  have hchars : referenceChars name ++ cs = '$' :: ('\x7b' :: name ++ '\x7d' :: cs) := by
    simp [referenceChars]
  rw [hchars] at hat ⊢
  rw [piecesFrom, hat]
  dsimp only
  rw [piecesFrom_eq_drop]
  have hdrop : '\x7b' :: name ++ '\x7d' :: cs = ('\x7b' :: name ++ ['\x7d']) ++ cs := by simp
  rw [hdrop, List.drop_left' (by simp)]

/-- A character with which no reference starts is a part by itself. -/
theorem piecesFrom_plain {c : Char} (h : referenceAt? (c :: cs) = none) :
    piecesFrom 0 (c :: cs) = .plain c :: piecesFrom 0 cs := by
  rw [piecesFrom, h]

/-- A text is empty, or it starts with a reference, or with a character that starts none. -/
theorem pieces_induction {motive : List Char → Prop} (nil : motive [])
    (reference : ∀ name rest, isIdentifier name = true → motive rest →
      motive (referenceChars name ++ rest))
    (plain : ∀ c rest, referenceAt? (c :: rest) = none → motive rest → motive (c :: rest))
    (cs : List Char) : motive cs := by
  induction hn : cs.length using Nat.strong_induction_on generalizing cs with
  | h n ih =>
      subst hn
      cases cs with
      | nil => exact nil
      | cons c rest =>
          cases hat : referenceAt? (c :: rest) with
          | none => exact plain c rest hat (ih _ (by simp) rest rfl)
          | some name =>
              obtain ⟨hname, tail, htail⟩ := referenceAt?_eq_some_iff.1 hat
              rw [← htail] at ih ⊢
              exact reference name tail hname (ih _ (by simp [referenceChars]; omega) tail rfl)

/-- The parts of a text put together are the text. -/
theorem flatMap_chars_piecesFrom (cs : List Char) : (piecesFrom 0 cs).flatMap Piece.chars = cs := by
  induction cs using pieces_induction with
  | nil => rfl
  | reference name rest hname ih =>
      rw [piecesFrom_reference hname, List.flatMap_cons, ih]
      rfl
  | plain c rest hat ih =>
      rw [piecesFrom_plain hat, List.flatMap_cons, ih]
      rfl

/-- The references among the parts of a text are to identifiers. -/
theorem isIdentifier_of_mem_piecesFrom (h : .reference name ∈ piecesFrom 0 cs) :
    isIdentifier name = true := by
  induction cs using pieces_induction with
  | nil => cases h
  | reference other rest hother ih =>
      rw [piecesFrom_reference hother] at h
      rcases List.mem_cons.1 h with heq | h
      · cases heq
        exact hother
      · exact ih h
  | plain c rest hat ih =>
      rw [piecesFrom_plain hat] at h
      rcases List.mem_cons.1 h with heq | h
      · cases heq
      · exact ih h

/-- A front of the parts of a text is what its own characters are taken apart to. -/
theorem piecesFrom_front {more : List Piece} (h : piecesFrom 0 cs = ps ++ more) :
    piecesFrom 0 (ps.flatMap Piece.chars) = ps := by
  induction cs using pieces_induction generalizing ps with
  | nil =>
      obtain ⟨rfl, -⟩ := List.append_eq_nil_iff.1 h.symm
      rfl
  | reference name rest hname ih =>
      rw [piecesFrom_reference hname] at h
      cases ps with
      | nil => rfl
      | cons p ps =>
          obtain ⟨rfl, hrest⟩ := List.cons.inj h
          rw [List.flatMap_cons]
          change piecesFrom 0 (referenceChars name ++ _) = _
          rw [piecesFrom_reference hname, ih hrest]
  | plain c rest hat ih =>
      rw [piecesFrom_plain hat] at h
      cases ps with
      | nil => rfl
      | cons p ps =>
          obtain ⟨rfl, hrest : piecesFrom 0 rest = ps ++ more⟩ := List.cons.inj h
          -- no reference starts with the character when less stands behind it
          have hnone : referenceAt? (c :: ps.flatMap Piece.chars) = none := by
            rw [Option.eq_none_iff_forall_ne_some] at hat ⊢
            intro name hname
            obtain ⟨hidentifier, hfront⟩ := referenceAt?_eq_some_iff.1 hname
            refine hat name (referenceAt?_eq_some_iff.2 ⟨hidentifier, hfront.trans ?_⟩)
            rw [← flatMap_chars_piecesFrom rest, hrest, List.flatMap_append]
            exact (List.prefix_cons_inj c).2 (List.prefix_append _ _)
          change piecesFrom 0 (c :: ps.flatMap Piece.chars) = _
          rw [piecesFrom_plain hnone, ih hrest]

/-- The text cannot go on with a reference that starts before it. -/
def Breaks (cs : List Char) : Prop :=
  ∀ c ∈ cs.head?, c ≠ '\x7b' ∧ c ≠ '\x7d' ∧ isIdentifierChar c = false

/-- What cannot go on with a reference is taken apart by itself. -/
theorem piecesFrom_append (h : Breaks more) (cs : List Char) :
    piecesFrom 0 (cs ++ more) = piecesFrom 0 cs ++ piecesFrom 0 more := by
  induction cs using pieces_induction with
  | nil => rfl
  | reference name rest hname ih =>
      rw [List.append_assoc, piecesFrom_reference hname, piecesFrom_reference hname, ih,
        List.cons_append]
  | plain c rest hat ih =>
      have hnone : referenceAt? (c :: (rest ++ more)) = none := by
        rw [Option.eq_none_iff_forall_ne_some] at hat ⊢
        intro name hname
        obtain ⟨hidentifier, hfront⟩ := referenceAt?_eq_some_iff.1 hname
        rw [← List.cons_append] at hfront
        -- a reference that ends behind the text would have the first character behind it inside
        rcases List.prefix_or_prefix_of_prefix hfront (List.prefix_append _ _) with hinside | hover
        · exact hat name (referenceAt?_eq_some_iff.2 ⟨hidentifier, hinside⟩)
        · obtain ⟨back, hback⟩ := hover
          cases back with
          | nil =>
              rw [List.append_nil] at hback
              exact hat name (referenceAt?_eq_some_iff.2 ⟨hidentifier, hback ▸ List.prefix_rfl⟩)
          | cons d back =>
              rw [← hback, List.prefix_append_right_inj] at hfront
              obtain ⟨tail, rfl⟩ := hfront
              obtain ⟨hopen, hclose, hother⟩ := h d rfl
              have hmem : d ∈ '\x7b' :: (name ++ ['\x7d']) := by
                have htail : '\x7b' :: (name ++ ['\x7d']) = rest ++ d :: back :=
                  (List.cons.inj hback).2.symm
                rw [htail]
                simp
              simp only [List.mem_cons, List.mem_append, List.not_mem_nil, or_false] at hmem
              rcases hmem with rfl | hmem | rfl
              · exact hopen rfl
              · rw [isIdentifierChar_of_mem hidentifier hmem] at hother
                cases hother
              · exact hclose rfl
      rw [List.cons_append, piecesFrom_plain hnone, piecesFrom_plain hat, ih, List.cons_append]

/-- The texts before and behind a reference are taken apart by themselves. -/
theorem piecesFrom_append_reference (h : isIdentifier name = true) (cs more : List Char) :
    piecesFrom 0 (cs ++ (referenceChars name ++ more)) =
      piecesFrom 0 cs ++ .reference name :: piecesFrom 0 more := by
  have hbreaks : Breaks (referenceChars name ++ more) := by
    rintro c ⟨⟩
    decide
  rw [piecesFrom_append hbreaks, piecesFrom_reference h]

/-- Characters without a dollar sign are parts by themselves. -/
theorem piecesFrom_of_no_dollar (h : '$' ∉ cs) (more : List Char) :
    piecesFrom 0 (cs ++ more) = cs.map .plain ++ piecesFrom 0 more := by
  induction cs with
  | nil => rfl
  | cons c cs ih =>
      rw [List.mem_cons, not_or] at h
      have hnone : referenceAt? (c :: (cs ++ more)) = none := by
        rw [referenceAt?]
        intro rest heq
        exact h.1 (List.cons.inj heq).1.symm
      rw [List.cons_append, piecesFrom_plain hnone, ih h.2]
      rfl

/-- What is written like a reference to an identifier with a line break behind it is none. -/
theorem piecesFrom_append_torn {front : List Char} (h : isIdentifier front = true)
    (cs more : List Char) :
    piecesFrom 0 (cs ++ (referenceChars (front ++ ['\n']) ++ more)) =
      piecesFrom 0 cs ++ ((referenceChars (front ++ ['\n'])).map .plain ++ piecesFrom 0 more) := by
  have hbreaks : Breaks (referenceChars (front ++ ['\n']) ++ more) := by
    rintro c ⟨⟩
    decide
  have hchars : ∀ tail, '\x7b' :: (front ++ ['\n'] ++ ['\x7d']) ++ tail =
      '\x7b' :: (front ++ '\n' :: '\x7d' :: tail) := by
    simp
  have htake : (front ++ '\n' :: '\x7d' :: more).takeWhile isIdentifierChar = front := by
    rw [List.takeWhile_append_of_pos fun c hc => isIdentifierChar_of_mem h hc]
    simp [isIdentifierChar, Char.isAlphanum, Char.isAlpha, Char.isUpper, Char.isLower,
      Char.isDigit]
  have hnone : referenceAt? (referenceChars (front ++ ['\n']) ++ more) = none := by
    rw [referenceChars, List.cons_append, hchars, referenceAt?]
    simp [htake]
  have hdollar : '$' ∉ '\x7b' :: (front ++ ['\n'] ++ ['\x7d']) := by
    have hfront : '$' ∉ front := fun hmem => by
      have := isIdentifierChar_of_mem h hmem
      simp [isIdentifierChar, Char.isAlphanum, Char.isAlpha, Char.isUpper, Char.isLower,
        Char.isDigit] at this
    simp [hfront]
  rw [piecesFrom_append hbreaks]
  congr 1
  rw [referenceChars, List.cons_append] at hnone ⊢
  rw [piecesFrom_plain hnone, piecesFrom_of_no_dollar hdollar]
  rfl

end Pieces

section Names

theorem mem_referencedNames {name : String} :
    name ∈ referencedNames ps ↔ Piece.reference name.toList ∈ ps := by
  rw [referencedNames, List.mem_filterMap]
  constructor
  · rintro ⟨p, hp, hname⟩
    cases p with
    | plain c => cases hname
    | reference chars =>
        obtain rfl := Option.some.inj hname
        rwa [String.toList_ofList]
  · intro h
    exact ⟨_, h, congrArg some String.ofList_toList⟩

theorem referencedNames_append (ps qs : List Piece) :
    referencedNames (ps ++ qs) = referencedNames ps ++ referencedNames qs :=
  List.filterMap_append

/-- A reference to an identifier stands in the text. -/
def RefersTo (text name : String) : Prop :=
  isIdentifier name.toList = true ∧ ∃ before after, text = before ++ referenceTo name ++ after

/-- In the text there is a reference to the first name before any to the second. -/
def UsedBefore (text first second : String) : Prop :=
  ∃ before after, text = before ++ referenceTo first ++ after ∧ second ∉ references before

theorem mem_references {name : String} :
    name ∈ references text ↔ Piece.reference name.toList ∈ pieces text := by
  rw [references, mem_firsts, mem_referencedNames]

/-- The characters of a text around a reference. -/
theorem toList_append_referenceTo (before name after : String) :
    (before ++ referenceTo name ++ after).toList =
      before.toList ++ (referenceChars name.toList ++ after.toList) := by
  simp [referenceTo]

theorem pieces_append_referenceTo {name : String} (h : isIdentifier name.toList = true)
    (before after : String) :
    pieces (before ++ referenceTo name ++ after) =
      pieces before ++ .reference name.toList :: pieces after := by
  rw [pieces, toList_append_referenceTo, piecesFrom_append_reference h]
  rfl

/-- The text around one of its parts that is a reference. -/
theorem split_of_pieces {name : String} {front back : List Piece}
    (h : pieces text = front ++ .reference name.toList :: back) :
    ∃ before after, text = before ++ referenceTo name ++ after ∧ pieces before = front := by
  refine ⟨String.ofList (front.flatMap Piece.chars), String.ofList (back.flatMap Piece.chars),
    ?_, ?_⟩
  · rw [← String.toList_inj, toList_append_referenceTo, ← flatMap_chars_piecesFrom text.toList]
    change (pieces text).flatMap Piece.chars = _
    rw [h, String.toList_ofList, String.toList_ofList, List.flatMap_append, List.flatMap_cons]
    rfl
  · rw [pieces, String.toList_ofList]
    exact piecesFrom_front h

/-- A text refers to the identifiers whose reference stands in it. -/
theorem mem_references_iff {name : String} : name ∈ references text ↔ RefersTo text name := by
  rw [mem_references]
  constructor
  · intro h
    obtain ⟨front, back, hsplit⟩ := List.append_of_mem h
    obtain ⟨before, after, htext, -⟩ := split_of_pieces hsplit
    exact ⟨isIdentifier_of_mem_piecesFrom h, before, after, htext⟩
  · rintro ⟨hname, before, after, rfl⟩
    rw [pieces_append_referenceTo hname]
    simp

/-- A text that cannot go on with a reference has the references of its two parts. -/
theorem mem_references_append {name : String} (h : Breaks after.toList) :
    name ∈ references (before ++ after) ↔ name ∈ references before ∨ name ∈ references after := by
  rw [mem_references, mem_references, mem_references, pieces, String.toList_append,
    piecesFrom_append h, List.mem_append]
  rfl

/-- What stands before a text without a dollar sign in it does not change the references. -/
theorem references_append_of_no_dollar (h : '$' ∉ before.toList) :
    references (before ++ after) = references after := by
  have hnone : referencedNames (before.toList.map .plain) = [] :=
    List.filterMap_eq_nil_iff.2 fun p hp => by
      obtain ⟨c, -, rfl⟩ := List.mem_map.1 hp
      rfl
  rw [references, references, pieces, String.toList_append, piecesFrom_of_no_dollar h,
    referencedNames_append, hnone, List.nil_append]
  rfl

theorem references_of_no_dollar (h : '$' ∉ text.toList) : references text = [] := by
  have happend := @references_append_of_no_dollar text "" h
  rwa [String.append_empty] at happend

theorem hasReferences_iff : hasReferences text = true ↔ references text ≠ [] := by
  rw [hasReferences, List.any_eq_true]
  constructor
  · rintro ⟨p, hp, hreference⟩
    cases p with
    | plain c => cases hreference
    | reference name =>
        have hmem : String.ofList name ∈ references text :=
          mem_references.2 (by rwa [String.toList_ofList])
        exact List.ne_nil_of_mem hmem
  · intro h
    obtain ⟨name, hname⟩ := List.exists_mem_of_ne_nil _ h
    exact ⟨_, mem_references.1 hname, rfl⟩

/-- What comes first in what satisfies a test is what comes first and satisfies it. -/
theorem firsts_filter {α : Type} [DecidableEq α] (l : List α) (test : α → Bool) :
    firsts (l.filter test) = (firsts l).filter test := by
  induction l with
  | nil => rfl
  | cons x rest ih =>
      rw [firsts, List.filter_cons, List.filter_cons, List.filter_filter]
      split
      · rw [firsts, ih, List.filter_filter]
        simp only [Bool.and_comm]
      · next hx =>
          rw [ih]
          refine List.filter_congr fun y _ => ?_
          by_cases hy : y = x
          · subst hy
            simpa using hx
          · simp [hy]

theorem firsts_append {α : Type} [DecidableEq α] (l more : List α) :
    firsts (l ++ more) = firsts l ++ (firsts more).filter fun a => decide (a ∉ l) := by
  induction l with
  | nil => simp [firsts]
  | cons x rest ih =>
      rw [List.cons_append, firsts, firsts, ih, List.filter_append, List.filter_filter,
        List.cons_append]
      congr 2
      refine List.filter_congr fun y _ => ?_
      simp [not_or]

/-- Repetitions on one of two sides do not change what comes first on both. -/
theorem firsts_firsts_append {α : Type} [DecidableEq α] (l more : List α) :
    firsts (firsts l ++ firsts more) = firsts (l ++ more) := by
  rw [firsts_append, firsts_append, Order.firsts_eq_self (nodup_firsts l),
    Order.firsts_eq_self (nodup_firsts more)]
  simp only [mem_firsts]

/-- Of two elements in the order of their first occurrences the first one occurs at a place before
which the second one does not. -/
theorem pairwise_firsts {α : Type} [DecidableEq α] (l : List α) :
    (firsts l).Pairwise fun a b => ∃ front back, l = front ++ a :: back ∧ b ∉ front := by
  induction l with
  | nil => exact .nil
  | cons x rest ih =>
      rw [firsts, List.pairwise_cons, List.pairwise_filter]
      refine ⟨fun b _ => ⟨[], rest, rfl, List.not_mem_nil⟩, ih.imp ?_⟩
      rintro a b ⟨front, back, rfl, hb⟩ - hne
      exact ⟨x :: front, back, rfl, by simpa using ⟨by simpa using hne, hb⟩⟩

/-- The references of a text are listed in the order of their first use. -/
theorem pairwise_references (text : String) : (references text).Pairwise (UsedBefore text) := by
  refine (pairwise_firsts (referencedNames (pieces text))).imp ?_
  rintro first second ⟨front, back, hnames, hsecond⟩
  obtain ⟨ps, qs, hpieces, hfront, hqs⟩ := List.filterMap_eq_append_iff.1 hnames
  obtain ⟨plains, p, rest, rfl, hplains, hp, -⟩ := List.filterMap_eq_cons_iff.1 hqs
  cases p with
  | plain c => cases hp
  | reference chars =>
      obtain rfl := Option.some.inj hp
      have hsplit : pieces text =
          (ps ++ plains) ++ .reference (String.ofList chars).toList :: rest := by
        rw [hpieces, String.toList_ofList, List.append_assoc]
      obtain ⟨before, after, htext, hbefore⟩ := split_of_pieces hsplit
      refine ⟨before, after, htext, ?_⟩
      have hnone : referencedNames plains = [] := List.filterMap_eq_nil_iff.2 hplains
      have hnames : referencedNames ps = front := hfront
      rw [references, mem_firsts, hbefore, referencedNames_append, hnames, hnone, List.append_nil]
      exact hsecond

end Names

section Substitution

/-- The names noted over some parts: behind those met before, each of the others without a value,
in the order of first use. -/
theorem foldl_note (values : Table String String) (met : List String) (ps : List Piece) :
    ps.foldl (Piece.note values) met =
      met ++ (firsts (referencedNames ps)).filter fun name =>
        !values.contains name && !met.contains name := by
  induction ps generalizing met with
  | nil => simp [referencedNames, firsts]
  | cons p ps ih =>
      cases p with
      | plain c => exact ih met
      | reference chars =>
          have hnames : referencedNames (.reference chars :: ps) =
              String.ofList chars :: referencedNames ps := rfl
          rw [List.foldl_cons, hnames, firsts, List.filter_cons, Piece.note]
          rw [← Bool.not_or]
          cases hskip : values.contains (String.ofList chars) ||
              met.contains (String.ofList chars) with
          | true =>
              rw [if_pos rfl, ih met, if_neg (by decide), List.filter_filter]
              congr 1
              refine List.filter_congr fun name _ => ?_
              by_cases hname : name = String.ofList chars
              · subst hname
                rw [← Bool.not_or, hskip]
                rfl
              · simp [hname]
          | false =>
              rw [if_neg (by decide), ih, if_pos (by decide), List.filter_filter,
                List.append_assoc, List.singleton_append]
              congr 2
              refine List.filter_congr fun name _ => ?_
              by_cases hname : name = String.ofList chars <;> simp [hname]

theorem substitute_unresolved (text : String) (values : Table String String) :
    (substitute text values).unresolved =
      (references text).filter fun name => !values.contains name := by
  rw [substitute, foldl_note]
  simp [references]

/-- Values that are the references themselves leave a text as it is. -/
theorem substitute_text_eq_self
    (h : ∀ name ∈ references text, ∀ value, values.get? name = some value →
      value = referenceTo name) :
    (substitute text values).text = text := by
  have hreplaced : ∀ p ∈ pieces text, p.replaced values = p.chars := by
    intro p hp
    cases p with
    | plain c => rfl
    | reference chars =>
        rw [Piece.replaced]
        split
        · next value hvalue =>
            rw [h _ (mem_references.2 (by rwa [String.toList_ofList])) value hvalue, referenceTo,
              String.toList_ofList, String.toList_ofList]
            rfl
        · rfl
  rw [substitute, List.flatMap_congr hreplaced]
  change String.ofList ((piecesFrom 0 text.toList).flatMap Piece.chars) = text
  rw [flatMap_chars_piecesFrom, String.ofList_toList]

/-- A reference to an identifier with a line break behind it is none, and stays. -/
theorem pieces_append_torn {front : String} (h : isIdentifier front.toList = true)
    (before after : String) :
    pieces (before ++ referenceTo (front ++ "\n") ++ after) =
      pieces before ++ ((referenceTo (front ++ "\n")).toList.map .plain ++ pieces after) := by
  have hname : (front ++ "\n").toList = front.toList ++ ['\n'] := String.toList_append
  rw [pieces, toList_append_referenceTo, hname, piecesFrom_append_torn h, referenceTo, hname,
    String.toList_ofList]
  rfl

/-- What a text becomes around a reference to a name with a value: the references of the texts on
its sides are replaced as if they stood alone, and the value is not looked at again. -/
theorem substitute_append_referenceTo {name value : String} (h : isVariableName name = true)
    (hvalue : values.get? name = some value) (before after : String) :
    (substitute (before ++ referenceTo name ++ after) values).text =
        (substitute before values).text ++
          (if name.toList.getLast? = some '\n' then referenceTo name else value) ++
          (substitute after values).text ∧
      (substitute (before ++ referenceTo name ++ after) values).unresolved =
        firsts ((substitute before values).unresolved ++ (substitute after values).unresolved) := by
  -- the references around the name, and what becomes of their texts
  suffices h : ∃ between : List Piece,
      pieces (before ++ referenceTo name ++ after) = pieces before ++ (between ++ pieces after) ∧
      (∀ other ∈ referencedNames between, other = name) ∧
      String.ofList (between.flatMap (Piece.replaced values)) =
        if name.toList.getLast? = some '\n' then referenceTo name else value by
    obtain ⟨between, hpieces, hnames, htext⟩ := h
    constructor
    · rw [← htext, substitute, substitute, substitute, hpieces, List.flatMap_append,
        List.flatMap_append, String.ofList_append, String.ofList_append, String.append_assoc]
    · have hnone : (referencedNames between).filter (fun other => !values.contains other) = [] :=
        List.filter_eq_nil_iff.2 fun other hother => by
          simp [hnames other hother, Table.contains, hvalue]
      rw [substitute_unresolved, substitute_unresolved, substitute_unresolved, references,
        references, references, hpieces, referencedNames_append, referencedNames_append,
        ← firsts_filter, ← firsts_filter, ← firsts_filter, List.filter_append, List.filter_append,
        hnone, List.nil_append, firsts_firsts_append]
  rcases Script.isIdentifier_or_of_isVariableName h with hname | ⟨front, hfront, rfl⟩
  · have hlast : name.toList.getLast? ≠ some '\n' := fun hlast => by
      have := isIdentifierChar_of_mem hname (List.mem_of_getLast? hlast)
      cases this
    refine ⟨[.reference name.toList], pieces_append_referenceTo hname before after, ?_, ?_⟩
    · intro other hother
      simpa [referencedNames] using hother
    · rw [if_neg hlast]
      simp [Piece.replaced, hvalue]
  · have hlast : (front ++ "\n").toList.getLast? = some '\n' := by simp
    refine ⟨_, pieces_append_torn hfront before after, ?_, ?_⟩
    · intro other hother
      rw [mem_referencedNames, List.mem_map] at hother
      obtain ⟨c, -, hc⟩ := hother
      cases hc
    · rw [if_pos hlast, List.flatMap_map]
      change String.ofList ((referenceTo (front ++ "\n")).toList.flatMap fun c => [c]) = _
      rw [List.flatMap_singleton', String.ofList_toList]

/-- Extraction and substitution agree. The references of a text are the identifiers whose reference
stands in it, each once and in the order of first use. What substitution leaves unresolved are those
without a value; without values, and with the references themselves as values, the text stays. At
every place where a reference to a valid name with a value stands, the text is that of the part
before it, then the value and then that of the part behind it. The names that end in a line break
are valid too, and the reference to such a name stays. -/
theorem substitution_spec (text : String) (values : Table String String) :
    (∀ name, name ∈ references text ↔ RefersTo text name) ∧
    (references text).Nodup ∧
    (references text).Pairwise (UsedBefore text) ∧
    (hasReferences text = true ↔ references text ≠ []) ∧
    (substitute text values).unresolved =
      ((references text).filter fun name => !values.contains name) ∧
    substitute text ∅ = ⟨text, references text⟩ ∧
    ((∀ name ∈ references text, values.get? name = some (referenceTo name)) →
      substitute text values = ⟨text, []⟩) ∧
    ∀ before name after value, text = before ++ referenceTo name ++ after →
      isVariableName name = true → values.get? name = some value →
        (substitute text values).text =
            (substitute before values).text ++
              (if name.toList.getLast? = some '\n' then referenceTo name else value) ++
              (substitute after values).text ∧
          (substitute text values).unresolved =
            firsts ((substitute before values).unresolved ++
              (substitute after values).unresolved) := by
  have hmk : ∀ values names, (substitute text values).text = text →
      (substitute text values).unresolved = names → substitute text values = ⟨text, names⟩ := by
    intro values names htext hnames
    calc substitute text values
        = ⟨(substitute text values).text, (substitute text values).unresolved⟩ := rfl
      _ = ⟨text, names⟩ := by rw [htext, hnames]
  refine ⟨fun _ => mem_references_iff, nodup_firsts _, pairwise_references text, hasReferences_iff,
    substitute_unresolved text values, hmk _ _ ?_ ?_, fun hown => hmk _ _ ?_ ?_, ?_⟩
  · exact substitute_text_eq_self fun name _ value hvalue => by cases hvalue
  · rw [substitute_unresolved]
    exact List.filter_eq_self.2 fun name _ => rfl
  · exact substitute_text_eq_self fun name hname value hvalue =>
      Option.some.inj (hvalue.symm.trans (hown name hname))
  · rw [substitute_unresolved, List.filter_eq_nil_iff]
    intro name hname
    simp [Table.contains, hown name hname]
  · rintro before name after value rfl hname hvalue
    exact substitute_append_referenceTo hname hvalue before after

/-- A value that is a reference itself is not replaced again. -/
theorem substitute_value_not_replaced :
    (substitute ("in " ++ referenceTo "a" ++ "!")
      (Table.ofList [("a", referenceTo "b"), ("b", "x")])).text = "in " ++ referenceTo "b" ++ "!" :=
  ((substitution_spec _ _).2.2.2.2.2.2.2 "in " "a" "!" (referenceTo "b") rfl (by decide)
    (by decide)).1.trans (by decide)

/-- The name with a line break at its end is valid and has a value, but its reference stays. -/
theorem substitute_line_break_stays :
    isVariableName "a\n" = true ∧ (Table.ofList [("a\n", "x")]).get? "a\n" = some "x" ∧
      (substitute (referenceTo "a\n") (Table.ofList [("a\n", "x")])).text ≠
        (substitute "" (Table.ofList [("a\n", "x")])).text ++ "x" ++
          (substitute "" (Table.ofList [("a\n", "x")])).text := by
  decide

end Substitution

end BuildGraph
