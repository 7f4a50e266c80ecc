import Mathlib
import BuildGraph.Number.Integer

/-!
# Decimal texts of natural numbers

The decimal text of a natural number holds digits alone, and an integer is read back from it as long
as it is not longer than integers may be.
-/

namespace BuildGraph.Number

open BuildGraph.Text

/-- What is checked of the ten digits holds of every decimal digit. -/
theorem forall_digit {P : Char → Prop} (h : ∀ d < 10, P (Char.ofNat (48 + d))) {c : Char}
    (hc : c.isDigit = true) : P c := by
  simp only [Char.isDigit, ge_iff_le, Bool.and_eq_true, decide_eq_true_eq,
    UInt32.le_iff_toNat_le] at hc
  have hval : c.toNat = c.val.toNat := rfl
  have hlow : '0'.val.toNat = 48 := rfl
  have hhigh : '9'.val.toNat = 57 := rfl
  have hdigit := h (c.toNat - 48) (by omega)
  rwa [Nat.add_sub_cancel' (by omega), Char.ofNat_toNat] at hdigit

/-- A decimal digit is no blank, no sign and no underscore, and it has its value. -/
theorem digit_facts {c : Char} (hc : c.isDigit = true) :
    isNumberBlank c = false ∧ c ≠ '-' ∧ c ≠ '+' ∧ c ≠ '_' ∧ plainDigit c = c ∧
      isDigit c = true ∧ digitIn? 10 c = some (c.toNat - 48) :=
  forall_digit (P := fun c => isNumberBlank c = false ∧ c ≠ '-' ∧ c ≠ '+' ∧ c ≠ '_' ∧
    plainDigit c = c ∧ isDigit c = true ∧ digitIn? 10 c = some (c.toNat - 48))
    (by decide +kernel) hc

theorem dropEnd_eq_self {p : Char → Bool} {cs : List Char} (h : ∀ c ∈ cs, p c = false) :
    dropEnd p cs = cs := by
  induction cs with
  | nil => rfl
  | cons c cs ih =>
      obtain ⟨hc, hcs⟩ := List.forall_mem_cons.1 h
      simp only [dropEnd, List.foldr_cons] at ih ⊢
      rw [ih hcs, if_neg (by simp [hc])]

/-- Digits are read to their end. -/
theorem takeDigits_digits {cs : List Char} (h : ∀ c ∈ cs, c.isDigit = true) (gap : Bool)
    (read : List Nat) (hgap : gap = true → cs ≠ []) :
    takeDigits 10 gap read cs = some (read.reverse ++ cs.map fun c => c.toNat - 48, []) := by
  induction cs generalizing gap read with
  | nil =>
      cases gap with
      | false => simp [takeDigits]
      | true => exact absurd rfl (hgap rfl)
  | cons c cs ih =>
      obtain ⟨hc, hcs⟩ := List.forall_mem_cons.1 h
      obtain ⟨-, -, -, hline, -, -, hvalue⟩ := digit_facts hc
      rw [takeDigits, if_neg hline, hvalue]
      simp only [ih hcs false _ (by simp), List.reverse_cons, List.append_assoc, List.map_cons,
        List.singleton_append]

/-- The characters of the decimal text of a natural number. -/
theorem toList_toString (n : Nat) : (toString n).toList = Nat.toDigits 10 n := by
  rw [Nat.toString_eq_ofList_toDigits, String.toList_ofList]

theorem isDigit_of_mem_toString {n : Nat} {c : Char} (hc : c ∈ (toString n).toList) :
    c.isDigit = true := by
  rw [toList_toString] at hc
  exact Nat.isDigit_of_mem_toDigits (by decide) (by decide) hc

/-- The value of the digits is the number. -/
theorem ofDigits_toString (n : Nat) :
    ofDigits 10 ((toString n).toList.map fun c => c.toNat - 48) = n := by
  have hdigits : Nat.ofDigitChars 10 (Nat.toDigits 10 n) 0 = n := Nat.ofDigitChars_ten_toDigits
  rw [toList_toString, ofDigits, List.foldl_map]
  rw [Nat.ofDigitChars_eq_foldl] at hdigits
  have hzero : '0'.toNat = 48 := rfl
  simpa only [Nat.mul_comm 10, hzero] using hdigits

/-- The decimal text of a natural number is read as the number, unless it is too long. -/
theorem readInteger_toString (n : Nat) : readInteger (toString n) =
    if maxDigits < (toString n).length then .error (.tooLong (toString n).length)
    else .ok (n : Int) := by
  have hdigits : ∀ c ∈ (toString n).toList, c.isDigit = true := fun c => isDigit_of_mem_toString
  obtain ⟨c, cs, hchars⟩ : ∃ c cs, (toString n).toList = c :: cs := by
    refine List.exists_cons_of_ne_nil ?_
    rw [toList_toString]
    exact Nat.toDigits_ne_nil
  have hc := digit_facts (hdigits c (hchars ▸ List.mem_cons_self))
  -- digits are neither blanks nor signs, so the text is all digits to the reader
  have hnumber : numberChars (toString n) = (toString n).toList := by
    have hstart : dropStart isNumberBlank (toString n).toList = (toString n).toList := by
      rw [hchars, dropStart, List.dropWhile_cons_of_neg (by simp [hc.1])]
    rw [numberChars, hstart, dropEnd_eq_self fun c hmem => (digit_facts (hdigits c hmem)).1]
    refine (List.map_congr_left fun c hmem => ?_).trans (List.map_id _)
    exact (digit_facts (hdigits c hmem)).2.2.2.2.1
  have hsign : takeSign (toString n).toList = (false, (toString n).toList) := by
    rw [hchars, takeSign.eq_3]
    · exact fun rest heq => hc.2.1 (List.cons.inj heq).1
    · exact fun rest heq => hc.2.2.1 (List.cons.inj heq).1
  have htake := takeDigits_digits hdigits true [] fun _ => hchars ▸ List.cons_ne_nil c cs
  have hlength : ((toString n).toList.map fun c => c.toNat - 48).length = (toString n).length := by
    rw [List.length_map, String.length_toList]
  rw [readInteger, hnumber, hsign]
  simp only [htake, List.reverse_nil, List.nil_append, hlength, List.isEmpty_nil, if_true,
    ofDigits_toString, signed, Bool.false_eq_true, if_false]

/-- The decimal text of a natural number that is not too long is read as the number. -/
theorem requireInteger_toString {n : Nat} (h : (toString n).length ≤ maxDigits) :
    requireInteger (toString n) = .ok (n : Int) := by
  rw [requireInteger, readInteger_toString, if_neg (by omega)]
  rfl

/-- The decimal text of a natural number is digits and nothing else. -/
theorem isDigitText_toString (n : Nat) : isDigitText (toString n) = true := by
  simp only [isDigitText, Bool.and_eq_true, List.all_eq_true, decide_eq_true_eq]
  refine ⟨fun hnil => ?_, fun c hc => (digit_facts (isDigit_of_mem_toString hc)).2.2.2.2.2.1⟩
  have hchars := toList_toString n
  rw [hnil] at hchars
  exact Nat.toDigits_ne_nil hchars.symm

end BuildGraph.Number
