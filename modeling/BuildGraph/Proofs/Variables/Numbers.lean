import BuildGraph.Guard.Evaluate
import BuildGraph.Proofs.Number.Digits
import BuildGraph.Proofs.Text.Trim
import BuildGraph.Variables.Value

/-!
# Numbers of variables and of guards

Two readers of numbers meet in a guard: the value of a number variable is checked by the one for
floating point numbers, which knows underscores, infinities and `notANumber`, and the operators of
guards read plain decimal numerals. `readers_agree_spec` compares them: but for values that are
rounded to an infinity, both read the same texts once underscores and the four separators among the
control characters are left aside, and they read them to the same numbers.
-/

namespace BuildGraph

open BuildGraph.Text BuildGraph.Number

variable {cs : List Char} {c : Char} {s v : String} {x y : Binary64}

section Blanks

/-- Whether the character may stand in a numeral. -/
def isNumeralChar (c : Char) : Bool := c.isDigit || ['+', '-', '.', 'e', 'E'].contains c

/-- The names of the numbers that are not written as numerals. -/
def specialNames : List String := ["inf", "infinity", "nan"]

/-- The letters of these names, and the underscore. -/
def specialLetters : List Char := ['i', 'n', 'f', 't', 'y', 'a', '_']

/-- A blank is no digit of any script, stands in no numeral and in no name of a number, and has no
other case. -/
theorem blank_facts (hc : isBlank c = true) :
    plainDigit c = c ∧ isNumeralChar c = false ∧ c.toLower = c ∧ c ∉ specialLetters :=
  forall_blank (P := fun c => plainDigit c = c ∧ isNumeralChar c = false ∧ c.toLower = c ∧
    c ∉ specialLetters) (by decide +kernel) hc

theorem isBlank_of_isNumberBlank (hc : isNumberBlank c = true) : isBlank c = true := by
  rw [isNumberBlank, Bool.and_eq_true] at hc
  exact hc.1

end Blanks

section Trimming

variable {p : Char → Bool} {front middle back : List Char}

theorem dropEnd_append (p : Char → Bool) (cs : List Char) :
    ∃ back, cs = dropEnd p cs ++ back ∧ ∀ c ∈ back, p c = true := by
  induction cs with
  | nil => exact ⟨[], rfl, List.forall_mem_nil _⟩
  | cons c cs ih =>
      obtain ⟨back, hcs, hback⟩ := ih
      rw [drop_end_cons]
      split
      · next h =>
          rw [Bool.and_eq_true, List.isEmpty_iff] at h
          rw [h.1, List.nil_append] at hcs
          exact ⟨c :: back, by rw [hcs, List.nil_append], List.forall_mem_cons.2 ⟨h.2, hback⟩⟩
      · exact ⟨back, by rw [List.cons_append, ← hcs], hback⟩

/-- What is dropped at both ends satisfies the test. -/
theorem dropBoth_append (p : Char → Bool) (cs : List Char) :
    ∃ front back, cs = front ++ dropEnd p (dropStart p cs) ++ back ∧
      (∀ c ∈ front, p c = true) ∧ ∀ c ∈ back, p c = true := by
  obtain ⟨back, hback, hall⟩ := dropEnd_append p (dropStart p cs)
  refine ⟨cs.takeWhile p, back, ?_, fun c hc => List.mem_takeWhile_imp hc, hall⟩
  rw [List.append_assoc, ← hback, dropStart, List.takeWhile_append_dropWhile]

theorem dropEnd_append_of_drop (hback : ∀ c ∈ back, p c = true) (cs : List Char) :
    dropEnd p (cs ++ back) = dropEnd p cs := by
  induction back using List.reverseRecOn with
  | nil => rw [List.append_nil]
  | append_singleton back c ih =>
      obtain ⟨hback, hc⟩ := List.forall_mem_append.1 hback
      rw [← List.append_assoc, drop_end_concat_of_drop (hc c (by simp)), ih hback]

/-- Between characters to drop those stay that are not to be dropped. -/
theorem dropBoth_eq (hfront : ∀ c ∈ front, p c = true) (hmiddle : ∀ c ∈ middle, p c = false)
    (hback : ∀ c ∈ back, p c = true) :
    dropEnd p (dropStart p (front ++ middle ++ back)) = middle := by
  cases middle with
  | nil =>
      have hnone : dropStart p (front ++ [] ++ back) = [] := by
        rw [dropStart, List.dropWhile_eq_nil_iff, List.append_nil]
        exact List.forall_mem_append.2 ⟨hfront, hback⟩
      rw [hnone]
      rfl
  | cons c middle =>
      have hc : p c = false := hmiddle c List.mem_cons_self
      rw [dropStart, List.append_assoc, List.dropWhile_append_of_pos hfront, List.cons_append,
        List.dropWhile_cons_of_neg (by simp [hc]), ← List.cons_append,
        dropEnd_append_of_drop hback, dropEnd_eq_self hmiddle]

/-- The characters to drop in front of one that is not. -/
theorem takeWhile_eq (hfront : ∀ c ∈ front, p c = true) (hmiddle : ∀ c ∈ middle, p c = false)
    (hne : middle ≠ []) : (front ++ middle ++ back).takeWhile p = front := by
  cases middle with
  | nil => exact absurd rfl hne
  | cons c middle =>
      rw [List.append_assoc, List.takeWhile_append_of_pos hfront, List.cons_append,
        List.takeWhile_cons_of_neg (by simp [hmiddle c List.mem_cons_self]), List.append_nil]

end Trimming

section Numerals

theorem isDigit_of_digitIn? {d : Nat} (h : digitIn? 10 c = some d) : c.isDigit = true := by
  rw [digitIn?, Option.filter_eq_some_iff, digitValue?] at h
  obtain ⟨hvalue, hlt⟩ := h
  simp only [decide_eq_true_eq] at hlt
  have hval : c.toNat = c.val.toNat := rfl
  simp only [Char.isDigit, ge_iff_le, Bool.and_eq_true, decide_eq_true_eq, UInt32.le_iff_toNat_le]
  have hlow : '0'.val.toNat = 48 := rfl
  have hhigh : '9'.val.toNat = 57 := rfl
  split_ifs at hvalue
  · omega
  all_goals
    have := Option.some.inj hvalue
    omega

/-- The digits that are read are the front of the characters. -/
theorem plainDigits_append (cs : List Char) :
    ∃ front, cs = front ++ (plainDigits cs).2 ∧ ∀ c ∈ front, c.isDigit = true := by
  induction cs with
  | nil => exact ⟨[], rfl, List.forall_mem_nil _⟩
  | cons c cs ih =>
      rw [plainDigits]
      split
      · next d hd =>
          obtain ⟨front, hcs, hfront⟩ := ih
          exact ⟨c :: front, by rw [List.cons_append, ← hcs],
            List.forall_mem_cons.2 ⟨isDigit_of_digitIn? hd, hfront⟩⟩
      · exact ⟨[], rfl, List.forall_mem_nil _⟩

/-- The sign that is taken off is the front of the characters. -/
theorem takeSign_append (cs : List Char) :
    ∃ front, cs = front ++ (takeSign cs).2 ∧ ∀ c ∈ front, c = '-' ∨ c = '+' := by
  rw [takeSign.eq_def]
  split
  · exact ⟨['-'], rfl, by simp⟩
  · exact ⟨['+'], rfl, by simp⟩
  · exact ⟨[], rfl, List.forall_mem_nil _⟩

theorem isNumeralChar_of_isDigit (h : c.isDigit = true) : isNumeralChar c = true := by
  rw [isNumeralChar, h, Bool.true_or]

theorem isNumeralChar_of_sign (h : c = '-' ∨ c = '+') : isNumeralChar c = true := by
  rcases h with rfl | rfl <;> decide

/-- All characters of an exponent may stand in a numeral. -/
theorem isNumeralChar_of_readExponent {e : Int} (h : readExponent? cs = some e) :
    ∀ c ∈ cs, isNumeralChar c = true := by
  cases cs with
  | nil => exact List.forall_mem_nil _
  | cons mark rest =>
      rw [readExponent?] at h
      split at h
      · next hmark =>
          obtain ⟨sign, hrest, hsign⟩ := takeSign_append rest
          obtain ⟨digits, hbody, hdigits⟩ := plainDigits_append (takeSign rest).2
          have hend : (plainDigits (takeSign rest).2).2 = [] := by
            dsimp only at h
            split at h
            · cases h
            · next heq => rw [heq]
            · cases h
          rw [hend, List.append_nil] at hbody
          refine List.forall_mem_cons.2 ⟨?_, ?_⟩
          · rw [Bool.or_eq_true, decide_eq_true_eq, decide_eq_true_eq] at hmark
            rcases hmark with rfl | rfl <;> decide
          · rw [hrest, hbody]
            exact List.forall_mem_append.2 ⟨fun c hc => isNumeralChar_of_sign (hsign c hc),
              fun c hc => isNumeralChar_of_isDigit (hdigits c hc)⟩
      · cases h

/-- All characters of a numeral may stand in one, and there are some. -/
theorem isNumeralChar_of_readNumeral (h : readNumeral? cs = some x) :
    cs ≠ [] ∧ ∀ c ∈ cs, isNumeralChar c = true := by
  refine ⟨?_, ?_⟩
  · rintro rfl
    cases h
  · rw [readNumeral?] at h
    obtain ⟨sign, hcs, hsign⟩ := takeSign_append cs
    obtain ⟨whole, hbody, hwhole⟩ := plainDigits_append (takeSign cs).2
    dsimp only at h
    generalize hdigits : plainDigits (takeSign cs).2 = read at h hbody
    obtain ⟨ds, tail⟩ := read
    dsimp only at h hbody
    -- the part behind the point and the exponent
    have htail : ∀ c ∈ tail, isNumeralChar c = true := by
      split at h
      · next more =>
          obtain ⟨part, hmore, hpart⟩ := plainDigits_append more
          split at h
          · cases h
          · obtain ⟨e, he, -⟩ := Option.map_eq_some_iff.1 h
            rw [hmore]
            exact List.forall_mem_cons.2 ⟨by decide, List.forall_mem_append.2
              ⟨fun c hc => isNumeralChar_of_isDigit (hpart c hc), isNumeralChar_of_readExponent he⟩⟩
      · split at h
        · cases h
        · obtain ⟨e, he, -⟩ := Option.map_eq_some_iff.1 h
          exact isNumeralChar_of_readExponent he
    rw [hcs, hbody]
    exact List.forall_mem_append.2 ⟨fun c hc => isNumeralChar_of_sign (hsign c hc),
      List.forall_mem_append.2 ⟨fun c hc => isNumeralChar_of_isDigit (hwhole c hc), htail⟩⟩

end Numerals

section Readers

theorem plainDigit_ne_underscore (h : c ≠ '_') : plainDigit c ≠ '_' := by
  rcases plainDigit_eq_or c with heq | hdigit
  · rwa [heq]
  · exact fun heq => by
      rw [heq] at hdigit
      cases hdigit

/-- What becomes a character of a numeral is no blank. -/
theorem not_isBlank_of_isNumeralChar (h : isNumeralChar (plainDigit c) = true) :
    isBlank c = false := by
  by_contra hblank
  obtain ⟨hplain, hother, -⟩ := blank_facts (Bool.not_eq_false _ ▸ hblank)
  rw [hplain, hother] at h
  cases h

theorem dropUnderscores?_of_not_mem (h : '_' ∉ cs) {before : Option Char}
    (hbefore : before ≠ some '_') : dropUnderscores? before cs = some cs := by
  induction cs generalizing before with
  | nil => rw [dropUnderscores?, if_neg hbefore]
  | cons c cs ih =>
      rw [List.mem_cons, not_or] at h
      rw [dropUnderscores?, if_neg (Ne.symm h.1)]
      dsimp only
      rw [if_neg (by simp [hbefore]), ih h.2 (by simpa using Ne.symm h.1)]
      rfl

/-- Taking out underscores leaves all other characters. -/
theorem mem_of_dropUnderscores? {ds : List Char} {before : Option Char}
    (h : dropUnderscores? before cs = some ds) (hc : c ∈ cs) (hne : c ≠ '_') : c ∈ ds := by
  induction cs generalizing before ds with
  | nil => cases hc
  | cons x cs ih =>
      rw [dropUnderscores?] at h
      dsimp only at h
      split at h
      · next hx =>
          split at h
          · exact ih h ((List.mem_cons.1 hc).resolve_left fun heq => hne (heq.trans hx))
          · cases h
      · split at h
        · cases h
        · obtain ⟨rest, hrest, rfl⟩ := Option.map_eq_some_iff.1 h
          rcases List.mem_cons.1 hc with rfl | hc
          · exact List.mem_cons_self
          · exact List.mem_cons_of_mem _ (ih hrest hc)

/-- The characters of a text between the blanks that may stand around a number. -/
def numberCore (s : String) : List Char := dropEnd isNumberBlank (dropStart isNumberBlank s.toList)

/-- What is no name of a number is read as a numeral. -/
theorem readBinary64?_eq_readNumeral {ds : List Char}
    (hds : dropUnderscores? none (numberChars s) = some ds)
    (hname : String.ofList ((takeSign ds).2.map Char.toLower) ∉ specialNames) :
    readBinary64? s = readNumeral? ds := by
  simp only [specialNames, List.mem_cons, List.not_mem_nil, or_false, not_or] at hname
  rw [readBinary64?, hds]
  dsimp only
  rw [if_neg (by simp only [hname, decide_false, Bool.or_self, Bool.false_eq_true,
    not_false_eq_true]), if_neg hname.2.2]

/-- A name of a number is none of a finite one. -/
theorem readBinary64?_of_special {ds : List Char}
    (hds : dropUnderscores? none (numberChars s) = some ds)
    (hname : String.ofList ((takeSign ds).2.map Char.toLower) ∈ specialNames) :
    readBinary64? s = some .notANumber ∨
      ∃ negative, readBinary64? s = some (.infinite negative) := by
  rw [readBinary64?, hds]
  dsimp only
  simp only [specialNames, List.mem_cons, List.not_mem_nil, or_false] at hname
  rcases hname with h | h | h
  · exact .inr ⟨_, by rw [h]; rfl⟩
  · exact .inr ⟨_, by rw [h]; rfl⟩
  · exact .inl (by rw [h]; rfl)

/-- The characters of a numeral are read as a numeral. -/
theorem readBinary64?_of_numeral (h : ∀ c ∈ numberChars s, isNumeralChar c = true) :
    readBinary64? s = readNumeral? (numberChars s) := by
  have hplain : '_' ∉ numberChars s := fun hmem => by
    have := h _ hmem
    cases this
  refine readBinary64?_eq_readNumeral (dropUnderscores?_of_not_mem hplain (by decide))
    fun hname => ?_
  -- all the names hold a letter that stands in no numeral
  have hletter : ∀ name ∈ specialNames, 'n' ∈ name.toList := by decide
  have hn := hletter _ hname
  rw [String.toList_ofList, List.mem_map] at hn
  obtain ⟨c, hc, hlower⟩ := hn
  obtain ⟨sign, hsplit, -⟩ := takeSign_append (numberChars s)
  have hnumeral := h c (by rw [hsplit]; exact List.mem_append_right _ hc)
  rw [isNumeralChar, Bool.or_eq_true, List.contains_iff_mem] at hnumeral
  rcases hnumeral with hdigit | hmark
  · exact forall_digit (P := fun c => c.toLower ≠ 'n') (by decide +kernel) hdigit hlower
  · simp only [List.mem_cons, List.not_mem_nil, or_false] at hmark
    rcases hmark with rfl | rfl | rfl | rfl | rfl <;> exact absurd hlower (by decide)

/-- A text that is read as a number has no blanks inside. -/
theorem not_isBlank_of_readBinary64 (h : readBinary64? s = some x) :
    ∀ c ∈ numberCore s, isBlank c = false := by
  intro c hc
  by_contra hblank
  obtain ⟨hplain, hother, hlower, hletter⟩ := blank_facts (Bool.not_eq_false _ ▸ hblank)
  have hmem : c ∈ numberChars s := List.mem_map.2 ⟨c, hc, hplain⟩
  cases hds : dropUnderscores? none (numberChars s) with
  | none =>
      rw [readBinary64?, hds] at h
      cases h
  | some ds =>
      have hkept : c ∈ ds := mem_of_dropUnderscores? hds hmem fun heq => hletter (heq ▸ by decide)
      have hname : String.ofList ((takeSign ds).2.map Char.toLower) ∉ specialNames := by
        intro hname
        have hletters : ∀ name ∈ specialNames, ∀ c ∈ name.toList, c ∈ specialLetters := by
          simp [specialNames, specialLetters]
        obtain ⟨sign, hsplit, hsign⟩ := takeSign_append ds
        rw [hsplit] at hkept
        rcases List.mem_append.1 hkept with hfront | hbody
        · rw [isNumeralChar_of_sign (hsign c hfront)] at hother
          cases hother
        · refine hletter (hletters _ hname c ?_)
          rw [String.toList_ofList]
          exact List.mem_map.2 ⟨c, hbody, hlower⟩
      rw [readBinary64?_eq_readNumeral hds hname] at h
      rw [(isNumeralChar_of_readNumeral h).2 c hkept] at hother
      cases hother

/-- A text without blanks inside is the same for both readers. -/
theorem trimChars_eq_numberCore (h : ∀ c ∈ numberCore s, isBlank c = false) :
    trimChars s.toList = numberCore s := by
  obtain ⟨front, back, hsplit, hfront, hback⟩ := dropBoth_append isNumberBlank s.toList
  rw [trimChars, hsplit]
  exact dropBoth_eq (fun c hc => isBlank_of_isNumberBlank (hfront c hc)) h
    fun c hc => isBlank_of_isNumberBlank (hback c hc)

/-- Where both readers read a number, they read the same one. -/
theorem readers_agree (hx : readBinary64? s = some x) (hy : operandNumber? s = some y) :
    x = y := by
  have hcore := trimChars_eq_numberCore (not_isBlank_of_readBinary64 hx)
  rw [operandNumber?, hcore] at hy
  have hread := readBinary64?_of_numeral (s := s) (isNumeralChar_of_readNumeral hy).2
  rw [hread] at hx
  exact Option.some.inj (hx.symm.trans hy)

/-- Every value of a number variable but the empty one is read as a number. -/
theorem fault?_number_eq_none_iff (hv : v ≠ "") :
    ValueType.number.fault? v = none ↔ ∃ x, readBinary64? v = some x ∧ x.isNumber = true := by
  rw [ValueType.fault?, if_neg hv]
  cases readBinary64? v with
  | none => simp
  | some x => cases hx : x.isNumber <;> simp [hx]

/-- Of the blanks at the ends of a text none is one of the four separators among the control
characters. -/
def PlainEdges (s : String) : Prop :=
  (∀ c ∈ s.toList.takeWhile isBlank, isNumberBlank c = true) ∧
    ∀ c ∈ s.toList.reverse.takeWhile isBlank, isNumberBlank c = true

/-- The blanks around characters that are none. -/
theorem takeWhile_isBlank {front middle back : List Char}
    (hsplit : s.toList = front ++ middle ++ back) (hfront : ∀ c ∈ front, isBlank c = true)
    (hmiddle : ∀ c ∈ middle, isBlank c = false) (hback : ∀ c ∈ back, isBlank c = true)
    (hne : middle ≠ []) :
    s.toList.takeWhile isBlank = front ∧ s.toList.reverse.takeWhile isBlank = back.reverse := by
  constructor
  · rw [hsplit, takeWhile_eq hfront hmiddle hne]
  · rw [hsplit, List.reverse_append, List.reverse_append, ← List.append_assoc]
    exact takeWhile_eq (by simpa using hback) (by simpa using hmiddle) (by simpa using hne)

/-- The value of a number variable that holds no underscore, and that is rounded to no infinity, is
a finite number for the operators of guards. -/
theorem operandNumber?_of_accepted (hv : v ≠ "")
    (hfinite : ∀ negative, readBinary64? v ≠ some (.infinite negative))
    (haccepted : ValueType.number.fault? v = none) (hplain : '_' ∉ v.toList) :
    (∃ q, readBinary64? v = some (.finite q) ∧ operandNumber? v = some (.finite q)) ∧
      PlainEdges v := by
  obtain ⟨x, hx, hnumber⟩ := (fault?_number_eq_none_iff hv).1 haccepted
  have hcore := not_isBlank_of_readBinary64 hx
  have hunderscore : '_' ∉ numberChars v := by
    intro hmem
    obtain ⟨c, hc, heq⟩ := List.mem_map.1 hmem
    obtain ⟨front, back, hsplit, -, -⟩ := dropBoth_append isNumberBlank v.toList
    refine plainDigit_ne_underscore (fun hc' => hplain ?_) heq
    rw [hsplit, ← hc']
    exact List.mem_append_left _ (List.mem_append_right _ hc)
  have hds := dropUnderscores?_of_not_mem hunderscore (by decide : (none : Option Char) ≠ some '_')
  have hname : String.ofList ((takeSign (numberChars v)).2.map Char.toLower) ∉ specialNames := by
    intro hname
    rcases readBinary64?_of_special hds hname with hnone | ⟨negative, hinfinite⟩
    · rw [hx] at hnone
      cases hnone
      cases hnumber
    · exact hfinite negative hinfinite
  have hread := readBinary64?_eq_readNumeral hds hname
  obtain ⟨q, rfl⟩ : ∃ q, x = .finite q := by
    cases x with
    | finite q => exact ⟨q, rfl⟩
    | infinite negative => exact absurd hx (hfinite negative)
    | notANumber => cases hnumber
  refine ⟨⟨q, hx, ?_⟩, ?_⟩
  · rw [operandNumber?, trimChars_eq_numberCore hcore]
    exact hread.symm.trans hx
  · have hne : numberCore v ≠ [] := fun hnone =>
      (isNumeralChar_of_readNumeral (hread.symm.trans hx)).1 (by
        rw [numberChars, show dropEnd _ _ = numberCore v from rfl, hnone, List.map_nil])
    obtain ⟨front, back, hsplit, hfront, hback⟩ := dropBoth_append isNumberBlank v.toList
    obtain ⟨hbefore, hbehind⟩ := takeWhile_isBlank hsplit
      (fun c hc => isBlank_of_isNumberBlank (hfront c hc)) hcore
      (fun c hc => isBlank_of_isNumberBlank (hback c hc)) hne
    rw [PlainEdges, hbefore, hbehind]
    exact ⟨hfront, fun c hc => hback c (List.mem_reverse.1 hc)⟩

/-- What is a finite number for the operators of guards is the value of a number variable, unless a
separator stands at one of its ends. -/
theorem accepted_of_operandNumber? {q : Rat} (hread : operandNumber? v = some (.finite q))
    (hedges : PlainEdges v) :
    ValueType.number.fault? v = none ∧ '_' ∉ v.toList ∧ readBinary64? v = some (.finite q) := by
  obtain ⟨hne, hnumeral⟩ := isNumeralChar_of_readNumeral hread
  have hinside : ∀ c ∈ trimChars v.toList, isBlank c = false := fun c hc =>
    not_isBlank_of_isNumeralChar (hnumeral _ (List.mem_map_of_mem hc))
  obtain ⟨front, back, hsplit, hfront, hback⟩ := dropBoth_append isBlank v.toList
  obtain ⟨hbefore, hbehind⟩ := takeWhile_isBlank hsplit hfront hinside hback fun hnone =>
    hne (by rw [show trimChars v.toList = [] from hnone, List.map_nil])
  rw [PlainEdges, hbefore, hbehind] at hedges
  have hcore : numberCore v = trimChars v.toList := by
    conv_lhs => rw [numberCore, hsplit]
    refine dropBoth_eq hedges.1 (fun c hc => ?_) fun c hc => hedges.2 c (List.mem_reverse.2 hc)
    rw [isNumberBlank, hinside c hc, Bool.false_and]
  have hchars : numberChars v = (trimChars v.toList).map plainDigit := by
    rw [← hcore]
    rfl
  have hvalue : readBinary64? v = some (.finite q) := by
    rw [readBinary64?_of_numeral (by rwa [hchars]), hchars]
    exact hread
  have hempty : v ≠ "" := by
    rintro rfl
    cases hread
  refine ⟨(fault?_number_eq_none_iff hempty).2 ⟨_, hvalue, rfl⟩, fun hmem => ?_, hvalue⟩
  -- an underscore is no blank and stands in no numeral
  rw [hsplit, List.mem_append, List.mem_append] at hmem
  rcases hmem with (hmem | hmem) | hmem
  · exact absurd (hfront _ hmem) (by decide)
  · exact absurd (hnumeral _ (List.mem_map_of_mem hmem)) (by decide)
  · exact absurd (hback _ hmem) (by decide)

/-- The text is the value of a number variable, holds no underscore and is rounded to no
infinity. -/
structure PlainNumber (v : String) : Prop where
  nonempty : v ≠ ""
  accepted : ValueType.number.fault? v = none
  plain : '_' ∉ v.toList
  finite : ∀ negative, readBinary64? v ≠ some (.infinite negative)

/-- The two readers of numbers agree. Among the texts that are rounded to no infinity, the values of
number variables that hold no underscore are those that are finite numbers for the operators of
guards and have no separators at their ends; whatever both readers read they read to the same
number, so that such values are compared as the numbers that they were checked to be. -/
theorem readers_agree_spec (v : String) :
    (v ≠ "" → (∀ negative, readBinary64? v ≠ some (.infinite negative)) →
      (ValueType.number.fault? v = none ∧ '_' ∉ v.toList ↔
        (∃ q, operandNumber? v = some (.finite q)) ∧ PlainEdges v)) ∧
    (∀ x y, readBinary64? v = some x → operandNumber? v = some y → x = y) ∧
    ∀ other, PlainNumber v → PlainNumber other →
      ∃ a b, readBinary64? v = some (.finite a) ∧ readBinary64? other = some (.finite b) ∧
        ∀ test, compareNumbers test v other = test (.finite a) (.finite b) := by
  refine ⟨fun hv hfinite => ⟨?_, ?_⟩, fun x y => readers_agree, ?_⟩
  · rintro ⟨haccepted, hplain⟩
    obtain ⟨⟨q, -, hread⟩, hedges⟩ := operandNumber?_of_accepted hv hfinite haccepted hplain
    exact ⟨⟨q, hread⟩, hedges⟩
  · rintro ⟨⟨q, hread⟩, hedges⟩
    obtain ⟨haccepted, hplain, -⟩ := accepted_of_operandNumber? hread hedges
    exact ⟨haccepted, hplain⟩
  · intro other hl hr
    obtain ⟨⟨a, ha, hleft⟩, -⟩ :=
      operandNumber?_of_accepted hl.nonempty hl.finite hl.accepted hl.plain
    obtain ⟨⟨b, hb, hright⟩, -⟩ :=
      operandNumber?_of_accepted hr.nonempty hr.finite hr.accepted hr.plain
    exact ⟨a, b, ha, hb, fun test => by rw [compareNumbers, hleft, hright]⟩

/-- Blanks, a sign, a digit of another script, a point and an exponent make a number for both. -/
theorem readers_agree_numeral :
    ValueType.number.fault? " +\u0661.5e1\n" = none ∧
      ∃ q, operandNumber? " +\u0661.5e1\n" = some (.finite q) := by
  have haccepted : ValueType.number.fault? " +\u0661.5e1\n" = none := by decide +kernel
  have hfinite : ∀ negative, readBinary64? " +\u0661.5e1\n" ≠ some (.infinite negative) := by
    decide +kernel
  exact ⟨haccepted, (((readers_agree_spec _).1 (by decide) hfinite).1 ⟨haccepted, by decide⟩).1⟩

/-- An underscore between digits is accepted in the value of a number variable, but the value is no
number for the operators of guards. -/
theorem underscore_not_compared :
    ValueType.number.fault? "1_0" = none ∧ operandNumber? "1_0" = none ∧
      compareNumbers (fun a b => b.lt a) "1_0" "5" = false := by
  decide +kernel

end Readers

end BuildGraph
