import BuildGraph.Proofs.Number.Decimal
import BuildGraph.Proofs.Text.Identifier
import BuildGraph.Proofs.Text.Runs

/-!
# Texts of digits as integers

A run of decimal digits, of any script, denotes a number. A text of digits is read as the number
that it denotes, and it is refused where one of its digits is no decimal one or where there are more
of them than an integer may have: `readInteger_eq_ok_iff`, `isRefused_iff`.
-/

namespace BuildGraph.Number

open BuildGraph.Text

/-- A run of decimal digits denotes a number: each digit adds its value to ten times the number
before it. -/
inductive Denotes : List Char → Nat → Prop where
  | digit {c : Char} {d : Nat} : decimalValue? c = some d → Denotes [c] d
  | append {cs : List Char} {c : Char} {n d : Nat} :
      Denotes cs n → decimalValue? c = some d → Denotes (cs ++ [c]) (10 * n + d)

/-- A text of digits that is no integer: not all of its digits are decimal, or there are too many of
them. -/
structure IsRefused (digits : List Char) : Prop where
  nonempty : digits ≠ []
  all_digits : ∀ c ∈ digits, isDigit c = true
  fault : (∃ c ∈ digits, isDecimal c = false) ∨ maxDigits < digits.length

variable {cs : List Char} {c : Char} {n m : Nat} {s : String}

section Characters

/-- Every decimal digit is a digit. -/
theorem isDigit_of_isDecimal (h : isDecimal c = true) : isDigit c = true := by
  have hlisted : (codesOf 0 decimalRuns).Sublist (codesOf 0 digitRuns) := by decide +kernel
  rw [isDecimal_eq_contains, contains_iff] at h
  exact contains_iff.2 (hlisted.subset h)

/-- A digit is no blank. -/
theorem not_isBlank_of_isDigit (h : isDigit c = true) : isBlank c = false := by
  by_contra hblank
  have hother : isDigit c = false :=
    forall_blank (P := fun c => isDigit c = false) (by decide +kernel)
      (Bool.not_eq_false _ ▸ hblank)
  rw [h] at hother
  cases hother

theorem decimalValue?_lt {d : Nat} (h : decimalValue? c = some d) : d < 10 := by
  obtain ⟨offset, -, rfl⟩ := Option.map_eq_some_iff.1 h
  exact Nat.mod_lt _ (by decide)

/-- A digit of another script becomes an ASCII digit, and every other character stays. -/
theorem plainDigit_eq_or (c : Char) : plainDigit c = c ∨ (plainDigit c).isDigit = true := by
  rw [plainDigit]
  split
  · exact .inl rfl
  · split
    · next d hd =>
        exact .inr ((by decide : ∀ d < 10, (Char.ofNat (48 + d)).isDigit = true) d
          (decimalValue?_lt hd))
    · exact .inl rfl

/-- What is no digit does not come from one when it is made plain. -/
theorem plainDigit_ne {x : Char} (h : isDigit c = true) (hx : isDigit x = false)
    (hascii : x.isDigit = false) : plainDigit c ≠ x := by
  rintro rfl
  rcases plainDigit_eq_or c with heq | hdigit
  · rw [heq, h] at hx
    cases hx
  · rw [hdigit] at hascii
    cases hascii

/-- Plain digits are no signs and no gap. -/
theorem plainDigit_no_mark (h : isDigit c = true) :
    plainDigit c ≠ '-' ∧ plainDigit c ≠ '+' ∧ plainDigit c ≠ '_' :=
  ⟨plainDigit_ne h (by decide) (by decide), plainDigit_ne h (by decide) (by decide),
    plainDigit_ne h (by decide) (by decide)⟩

/-- A decimal digit keeps its value when it is made plain, and no other character gets one. -/
theorem digitIn?_plainDigit (c : Char) : digitIn? 10 (plainDigit c) = decimalValue? c := by
  by_cases hascii : c.toNat < 128
  · exact forall_ascii (P := fun c => digitIn? 10 (plainDigit c) = decimalValue? c)
      (by decide +kernel) c hascii
  · rw [plainDigit, if_neg hascii]
    cases hvalue : decimalValue? c with
    | none =>
        have hother : digitValue? c = none := by
          simp only [digitValue?]
          rw [if_neg (by omega), if_neg (by omega), if_neg (by omega)]
        simp only [digitIn?, hother, Option.filter_none]
    | some d =>
        exact (by decide : ∀ d < 10, digitIn? 10 (Char.ofNat (48 + d)) = some d) d
          (decimalValue?_lt hvalue)

end Characters

section Denoting

/-- The value of a decimal digit. -/
def digitValue (c : Char) : Nat := (decimalValue? c).getD 0

theorem decimalValue?_eq_some_iff {d : Nat} :
    decimalValue? c = some d ↔ isDecimal c = true ∧ digitValue c = d := by
  rw [isDecimal, digitValue]
  cases decimalValue? c <;> simp

theorem ofDigits_concat (ds : List Nat) (d : Nat) :
    ofDigits 10 (ds ++ [d]) = 10 * ofDigits 10 ds + d := by
  rw [ofDigits, ofDigits, List.foldl_append, List.foldl_cons, List.foldl_nil, Nat.mul_comm]

/-- A text denotes a number when it is decimal digits and nothing else. -/
theorem denotes_iff :
    Denotes cs n ↔
      cs ≠ [] ∧ (∀ c ∈ cs, isDecimal c = true) ∧ ofDigits 10 (cs.map digitValue) = n := by
  constructor
  · intro h
    induction h with
    | digit hd =>
        obtain ⟨hdecimal, rfl⟩ := decimalValue?_eq_some_iff.1 hd
        exact ⟨by simp, by simpa using hdecimal, by simp [ofDigits]⟩
    | append _ hd ih =>
        obtain ⟨hdecimal, rfl⟩ := decimalValue?_eq_some_iff.1 hd
        obtain ⟨-, hall, rfl⟩ := ih
        refine ⟨by simp, List.forall_mem_append.2 ⟨hall, by simpa using hdecimal⟩, ?_⟩
        rw [List.map_append, List.map_singleton, ofDigits_concat]
  · induction cs using List.reverseRecOn generalizing n with
    | nil => exact fun h => absurd rfl h.1
    | append_singleton cs c ih =>
        rintro ⟨-, hall, rfl⟩
        obtain ⟨hcs, hc⟩ := List.forall_mem_append.1 hall
        have hd := decimalValue?_eq_some_iff.2 ⟨hc c (by simp), rfl⟩
        rcases List.eq_nil_or_concat cs with rfl | ⟨front, last, rfl⟩
        · simpa [ofDigits] using Denotes.digit hd
        · rw [List.map_append, List.map_singleton, ofDigits_concat]
          exact (ih ⟨by simp, hcs, rfl⟩).append hd

theorem exists_denotes (hne : cs ≠ []) (hall : ∀ c ∈ cs, isDecimal c = true) :
    ∃ n, Denotes cs n :=
  ⟨_, denotes_iff.2 ⟨hne, hall, rfl⟩⟩

theorem Denotes.unique (hn : Denotes cs n) (hm : Denotes cs m) : n = m :=
  (denotes_iff.1 hn).2.2.symm.trans (denotes_iff.1 hm).2.2

theorem Denotes.isDigit (h : Denotes cs n) : ∀ c ∈ cs, isDigit c = true :=
  fun c hc => isDigit_of_isDecimal ((denotes_iff.1 h).2.1 c hc)

/-- A zero in front of a number changes nothing. -/
theorem denotes_cons_zero (hne : cs ≠ []) : Denotes ('0' :: cs) n ↔ Denotes cs n := by
  have hzero : isDecimal '0' = true ∧ digitValue '0' = 0 := by decide
  simp [denotes_iff, hne, hzero, ofDigits]

end Denoting

section Reading

/-- Decimal digits are read to their end. -/
theorem takeDigits_decimals (h : ∀ c ∈ cs, isDecimal c = true) (gap : Bool) (read : List Nat)
    (hgap : gap = true → cs ≠ []) :
    takeDigits 10 gap read (cs.map plainDigit) =
      some (read.reverse ++ cs.map digitValue, []) := by
  induction cs generalizing gap read with
  | nil =>
      cases gap with
      | false => simp [takeDigits]
      | true => exact absurd rfl (hgap rfl)
  | cons c cs ih =>
      obtain ⟨hc, hcs⟩ := List.forall_mem_cons.1 h
      have hline := (plainDigit_no_mark (isDigit_of_isDecimal hc)).2.2
      have hvalue := decimalValue?_eq_some_iff.2 ⟨hc, rfl⟩
      rw [List.map_cons, takeDigits, if_neg hline, digitIn?_plainDigit, hvalue]
      simp only [ih hcs false _ (by simp), List.reverse_cons, List.append_assoc,
        List.singleton_append, List.map_cons]

/-- Digits that are read to their end are decimal. -/
theorem isDecimal_of_takeDigits (hdigits : ∀ c ∈ cs, isDigit c = true) {gap : Bool}
    {read ds : List Nat} (h : takeDigits 10 gap read (cs.map plainDigit) = some (ds, [])) :
    ∀ c ∈ cs, isDecimal c = true := by
  induction cs generalizing gap read with
  | nil => exact List.forall_mem_nil _
  | cons c cs ih =>
      obtain ⟨hc, hcs⟩ := List.forall_mem_cons.1 hdigits
      rw [List.map_cons, takeDigits, if_neg (plainDigit_no_mark hc).2.2, digitIn?_plainDigit] at h
      cases hvalue : decimalValue? c with
      | none =>
          rw [hvalue] at h
          cases gap <;> cases h
      | some d =>
          rw [hvalue] at h
          exact List.forall_mem_cons.2 ⟨(decimalValue?_eq_some_iff.1 hvalue).1, ih hcs h⟩

/-- Nothing is cut off a text of digits before its digits are read. -/
theorem takeSign_numberChars (hdigits : ∀ c ∈ s.toList, isDigit c = true) :
    takeSign (numberChars s) = (false, s.toList.map plainDigit) := by
  have hblank : ∀ c ∈ s.toList, isNumberBlank c = false := fun c hc => by
    rw [isNumberBlank, not_isBlank_of_isDigit (hdigits c hc), Bool.false_and]
  have hstart : dropStart isNumberBlank s.toList = s.toList :=
    List.dropWhile_eq_self_iff.2 fun hl => by simp [hblank _ (List.getElem_mem hl)]
  rw [numberChars, hstart, dropEnd_eq_self hblank]
  cases hchars : s.toList with
  | nil => rfl
  | cons c cs =>
      have hc := plainDigit_no_mark (hdigits c (hchars ▸ List.mem_cons_self))
      rw [List.map_cons, takeSign.eq_3]
      · exact fun rest heq => hc.1 (List.cons.inj heq).1
      · exact fun rest heq => hc.2.1 (List.cons.inj heq).1

/-- A text of digits is read as the number that it denotes, when it is not too long. -/
theorem readInteger_eq_ok_iff (hdigits : isDigitText s = true) {k : Int} :
    readInteger s = .ok k ↔
      ∃ n : Nat, Denotes s.toList n ∧ s.toList.length ≤ maxDigits ∧ (n : Int) = k := by
  simp only [isDigitText, Bool.and_eq_true, decide_eq_true_eq, List.all_eq_true] at hdigits
  obtain ⟨hne, hall⟩ := hdigits
  have hchars : s.toList ≠ [] := by simpa using hne
  rw [readInteger, takeSign_numberChars hall]
  dsimp only
  constructor
  · intro h
    split at h
    · cases h
    · next ds rest htake =>
        split_ifs at h with hlong hrest
        rw [List.isEmpty_iff] at hrest
        subst hrest
        have hdecimal := isDecimal_of_takeDigits hall htake
        rw [takeDigits_decimals hdecimal true [] fun _ => hchars] at htake
        obtain rfl := (Prod.mk.inj (Option.some.inj htake)).1
        refine ⟨_, denotes_iff.2 ⟨hchars, hdecimal, rfl⟩, by simpa using hlong, ?_⟩
        simpa [signed] using Except.ok.inj h
  · rintro ⟨n, hn, hlength, rfl⟩
    obtain ⟨-, hdecimal, rfl⟩ := denotes_iff.1 hn
    rw [takeDigits_decimals hdecimal true [] fun _ => hchars]
    dsimp only
    rw [if_neg (by simpa using hlength), if_pos (by simp)]
    simp [signed]

theorem isDigitText_ofList :
    isDigitText (.ofList cs) = true ↔ cs ≠ [] ∧ ∀ c ∈ cs, isDigit c = true := by
  simp [isDigitText]

theorem IsRefused.isDigitText (h : IsRefused cs) : isDigitText (.ofList cs) = true :=
  isDigitText_ofList.2 ⟨h.nonempty, h.all_digits⟩

theorem Denotes.isDigitText (h : Denotes cs n) : isDigitText (.ofList cs) = true :=
  isDigitText_ofList.2 ⟨(denotes_iff.1 h).1, h.isDigit⟩

/-- A text of digits is refused when it denotes no number that is short enough. -/
theorem isRefused_iff (hdigits : isDigitText (.ofList cs) = true) :
    IsRefused cs ↔ ∃ stop, requireInteger (.ofList cs) = .error stop := by
  have hread : (∃ stop, requireInteger (.ofList cs) = .error stop) ↔
      ¬ ∃ k, readInteger (.ofList cs) = .ok k := by
    rw [requireInteger]
    cases readInteger (.ofList cs) <;> simp [Except.mapError]
  rw [hread]
  simp only [readInteger_eq_ok_iff hdigits, String.toList_ofList]
  obtain ⟨hne, hall⟩ := isDigitText_ofList.1 hdigits
  constructor
  · rintro ⟨-, -, hfault⟩ ⟨k, n, hn, hlength, -⟩
    rcases hfault with ⟨c, hc, hother⟩ | hlong
    · rw [(denotes_iff.1 hn).2.1 c hc] at hother
      cases hother
    · omega
  · intro h
    refine ⟨hne, hall, ?_⟩
    by_contra hfault
    simp only [not_or, not_exists, not_and, Bool.not_eq_false, not_lt] at hfault
    obtain ⟨n, hn⟩ := exists_denotes hne hfault.1
    exact h ⟨n, n, hn, hfault.2, rfl⟩

/-- A text of digits is read as the number that it denotes, or it is refused. -/
theorem requireInteger_cases (hdigits : isDigitText (.ofList cs) = true) :
    (∃ n : Nat, Denotes cs n ∧ requireInteger (.ofList cs) = .ok (n : Int)) ∨
      ∃ stop, IsRefused cs ∧ requireInteger (.ofList cs) = .error stop := by
  cases hread : requireInteger (.ofList cs) with
  | error stop => exact .inr ⟨stop, (isRefused_iff hdigits).2 ⟨stop, hread⟩, rfl⟩
  | ok k =>
      rw [requireInteger] at hread
      cases hvalue : readInteger (.ofList cs) with
      | error fault => simp [hvalue, Except.mapError] at hread
      | ok k' =>
          rw [hvalue] at hread
          obtain rfl : k' = k := Except.ok.inj hread
          obtain ⟨n, hn, -, rfl⟩ := (readInteger_eq_ok_iff hdigits).1 hvalue
          rw [String.toList_ofList] at hn
          exact .inl ⟨n, hn, rfl⟩

end Reading

end BuildGraph.Number
