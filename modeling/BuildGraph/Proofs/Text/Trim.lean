import Mathlib
import BuildGraph.Text.Split

/-!
# Trimmed texts

A text that was trimmed has no blanks at its ends, so trimming it again changes nothing.
-/

namespace BuildGraph.Text

variable {p : Char → Bool}

theorem drop_end_cons (p : Char → Bool) (c : Char) (cs : List Char) :
    dropEnd p (c :: cs) = if (dropEnd p cs).isEmpty && p c then [] else c :: dropEnd p cs :=
  rfl

theorem drop_end_drop_end (p : Char → Bool) (cs : List Char) :
    dropEnd p (dropEnd p cs) = dropEnd p cs := by
  induction cs with
  | nil => rfl
  | cons c cs ih =>
      rw [drop_end_cons]
      split
      · rfl
      · next h => rw [drop_end_cons, ih, if_neg h]

/-- What starts with a character to keep still starts with it when the end is dropped. -/
theorem drop_start_drop_end_drop_start (p : Char → Bool) (cs : List Char) :
    dropStart p (dropEnd p (dropStart p cs)) = dropEnd p (dropStart p cs) := by
  rw [dropStart, dropStart]
  cases h : cs.dropWhile p with
  | nil => rfl
  | cons c rest =>
      have hc : p c = false := by
        have hhead := List.head_dropWhile_not p (l := cs) (by simp [h])
        simpa [h] using hhead
      simp [drop_end_cons, hc]

/-- What ends with a character to keep is left as it is. -/
theorem drop_end_concat {c : Char} (h : p c = false) (cs : List Char) :
    dropEnd p (cs ++ [c]) = cs ++ [c] := by
  induction cs with
  | nil => simp [dropEnd, h]
  | cons x cs ih => rw [List.cons_append, drop_end_cons, ih, if_neg (by simp)]

/-- A character to drop is dropped at the end. -/
theorem drop_end_concat_of_drop {c : Char} (h : p c = true) (cs : List Char) :
    dropEnd p (cs ++ [c]) = dropEnd p cs := by
  induction cs with
  | nil => simp [dropEnd, h]
  | cons x cs ih => rw [List.cons_append, drop_end_cons, drop_end_cons, ih]

/-- A blank at the end is trimmed away. -/
theorem trimChars_concat_of_blank {c : Char} (h : isBlank c = true) (cs : List Char) :
    trimChars (cs ++ [c]) = trimChars cs := by
  induction cs with
  | nil => simp [trimChars, dropStart, dropEnd, h]
  | cons x cs ih =>
      by_cases hx : isBlank x = true
      · simpa [trimChars, dropStart, hx] using ih
      · have hkept : ∀ rest, dropStart isBlank (x :: rest) = x :: rest := fun rest =>
          List.dropWhile_cons_of_neg hx
        rw [List.cons_append, trimChars, trimChars, hkept, hkept, ← List.cons_append,
          drop_end_concat_of_drop h]

/-- Trimming twice is trimming once. -/
theorem trim_trim (s : String) : trim (trim s) = trim s := by
  simp only [trim, trimChars, String.toList_ofList, drop_start_drop_end_drop_start,
    drop_end_drop_end]

end BuildGraph.Text
