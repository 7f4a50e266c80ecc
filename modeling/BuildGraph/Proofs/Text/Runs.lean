import Mathlib
import BuildGraph.Text.CharClass

/-!
# Classes of characters

A class of characters is a table of runs. Its members are the code points that the runs list, so
that classes can be compared, and their members checked, code point by code point: `contains_iff`.
-/

namespace BuildGraph

open BuildGraph.Text

/-- The code points in some runs, of which the first gap begins at the given one. -/
def codesOf (start : Nat) : Runs → List Nat
  | gap :: run :: rest => List.range' (start + gap) run ++ codesOf (start + gap + run) rest
  | _ => []

theorem le_of_mem_codesOf {runs : Runs} {start m : Nat} (h : m ∈ codesOf start runs) :
    start ≤ m := by
  fun_induction codesOf start runs with
  | case1 start gap run rest ih =>
      rcases List.mem_append.1 h with h | h
      · have := List.left_le_of_mem_range' h
        omega
      · have := ih h
        omega
  | case2 => cases h

theorem mem_codesOf_iff {runs : Runs} {n : Nat} (start : Nat) :
    start + n ∈ codesOf start runs ↔ runs.contains n = true := by
  fun_induction Runs.contains runs n generalizing start with
  | case1 gap run rest n hgap =>
      have hrun : start + n ∉ List.range' (start + gap) run := fun h => by
        have := List.left_le_of_mem_range' h
        omega
      have hrest : start + n ∉ codesOf (start + gap + run) rest := fun h => by
        have := le_of_mem_codesOf h
        omega
      simp [codesOf, hrun, hrest]
  | case2 gap run rest n hgap hrun =>
      rw [codesOf, List.mem_append, List.mem_range'_1]
      exact iff_of_true (.inl (by omega)) rfl
  | case3 gap run rest n hgap hrun ih =>
      have hrest := ih (start + gap + run)
      rw [show start + gap + run + (n - gap - run) = start + n by omega] at hrest
      rw [codesOf, List.mem_append, hrest, List.mem_range'_1]
      exact or_iff_right (by omega)
  | case4 runs n hruns => simp [codesOf.eq_2 _ _ hruns]

/-- The members of a class are the code points that its runs list. -/
theorem contains_iff {runs : Runs} {n : Nat} :
    runs.contains n = true ↔ n ∈ codesOf 0 runs := by
  rw [← mem_codesOf_iff 0, Nat.zero_add]

/-- What is checked of the blanks one by one holds of every blank. -/
theorem forall_blank {P : Char → Prop} (h : ∀ n ∈ codesOf 0 blankRuns, P (Char.ofNat n)) {c : Char}
    (hc : isBlank c = true) : P c := by
  simpa using h c.toNat (contains_iff.1 hc)

/-- A code point is at some distance from the start of a run exactly if it lies in one. -/
theorem isSome_offset? (runs : Runs) (n : Nat) : (runs.offset? n).isSome = runs.contains n := by
  fun_induction Runs.offset? runs n with
  | case1 gap run rest n hgap => rw [Runs.contains, if_pos hgap, Option.isSome_none]
  | case2 gap run rest n hgap hrun =>
      rw [Runs.contains, if_neg hgap, if_pos hrun, Option.isSome_some]
  | case3 gap run rest n hgap hrun ih => rw [ih, Runs.contains, if_neg hgap, if_neg hrun]
  | case4 runs n hruns => rw [Runs.contains.eq_2 _ _ hruns, Option.isSome_none]

theorem isDecimal_eq_contains (c : Char) : isDecimal c = decimalRuns.contains c.toNat := by
  rw [isDecimal, decimalValue?, Option.isSome_map, isSome_offset?]

end BuildGraph
