import Mathlib
import BuildGraph.Text.LowerCase

/-!
# Beginnings of lower-case texts

A text whose lower-case form begins with given characters begins with as many characters, of which
those are the lower-case forms. This holds of characters that come from one character each: the
small i and the forms of the small sigma are left out.

Main statements: `exists_prefix_of_lowerFrom` and `lowerFrom_append`.
-/

namespace BuildGraph.Text

/-- The lower-case form of a character depends on no other, and is one character. -/
def LowersAlone (c : Char) : Prop := c ≠ 'Σ' ∧ c ≠ 'İ'

/-- A lower-case character that only characters which lower alone have as their form. -/
def ComesAlone (c : Char) : Prop := c ≠ 'i' ∧ c ≠ 'σ' ∧ c ≠ 'ς'

instance (c : Char) : Decidable (ComesAlone c) := inferInstanceAs (Decidable (_ ∧ _))

variable {before cs ds : List Char} {c d : Char}

theorem LowersAlone.lowerFrom (h : LowersAlone c) :
    lowerFrom before (c :: cs) = lowerChar c :: lowerFrom (c :: before) cs := by
  simp [Text.lowerFrom, h.1, h.2]

/-- A text without the two special characters is lowered character by character. -/
theorem lowerFrom_append (h : ∀ c ∈ cs, LowersAlone c) :
    lowerFrom before (cs ++ ds) = cs.map lowerChar ++ lowerFrom (cs.reverse ++ before) ds := by
  induction cs generalizing before with
  | nil => rfl
  | cons c cs ih =>
      obtain ⟨hc, hcs⟩ := List.forall_mem_cons.1 h
      rw [List.cons_append, hc.lowerFrom, ih hcs]
      simp

/-- The first of the lower-case characters tells what the text begins with. -/
theorem lowersAlone_of_head (hd : ComesAlone d) (h : [d] <+: lowerFrom before (c :: cs)) :
    LowersAlone c := by
  constructor
  · rintro rfl
    rw [lowerFrom] at h
    split at h
    · split at h <;> simp [hd.2.1, hd.2.2] at h
    · simp_all
  · rintro rfl
    simp [lowerFrom, hd.1] at h

/-- A text begins as its lower-case form does. -/
theorem exists_prefix_of_lowerFrom (hds : ∀ d ∈ ds, ComesAlone d) (h : ds <+: lowerFrom before cs) :
    ∃ front back, cs = front ++ back ∧ front.map lowerChar = ds ∧ ∀ c ∈ front, LowersAlone c := by
  induction ds generalizing before cs with
  | nil => exact ⟨[], cs, rfl, rfl, by simp⟩
  | cons d ds ih =>
      obtain ⟨hd, hrest⟩ := List.forall_mem_cons.1 hds
      cases cs with
      | nil => simp [lowerFrom] at h
      | cons c cs =>
          have hc : LowersAlone c :=
            lowersAlone_of_head hd ((List.prefix_append [d] ds).trans h)
          rw [hc.lowerFrom, List.cons_prefix_cons] at h
          obtain ⟨front, back, rfl, hmap, hfront⟩ := ih hrest h.2
          exact ⟨c :: front, back, rfl, by rw [List.map_cons, hmap, h.1],
            List.forall_mem_cons.2 ⟨hc, hfront⟩⟩

/-- A text whose lower-case form is given has one character for each of its characters. -/
theorem map_lowerChar_of_lowerFrom (hds : ∀ d ∈ ds, ComesAlone d) (h : lowerFrom before cs = ds) :
    cs.map lowerChar = ds ∧ ∀ c ∈ cs, LowersAlone c := by
  have hprefix : ds <+: lowerFrom before cs := h ▸ List.prefix_rfl
  obtain ⟨front, back, rfl, hmap, hfront⟩ := exists_prefix_of_lowerFrom hds hprefix
  rw [lowerFrom_append hfront, hmap] at h
  have hback : back = [] := by
    cases back with
    | nil => rfl
    | cons c back =>
        have hnil : lowerFrom (front.reverse ++ before) (c :: back) = [] := by simpa using h
        rw [lowerFrom] at hnil
        split at hnil
        · simp at hnil
        · split at hnil <;> simp at hnil
  subst hback
  simpa using ⟨hmap, hfront⟩

/-- A shift comes from a stretch that begins before the code point. -/
theorem exists_stretch {stretches : List (Nat × Nat × Nat × Int)} {n : Nat}
    (h : stretchShift stretches n ≠ 0) :
    ∃ s ∈ stretches, s.1 ≤ n ∧ s.2.2.2 = stretchShift stretches n := by
  induction stretches with
  | nil => simp [stretchShift] at h
  | cons s rest ih =>
      obtain ⟨first, count, step, shift⟩ := s
      rw [stretchShift] at h ⊢
      split at h
      · exact absurd rfl h
      · next hfirst =>
          rw [if_neg hfirst]
          split at h
          · next hin => exact ⟨_, List.mem_cons_self, by simpa using hfirst, by rw [if_pos hin]⟩
          · next hout =>
              obtain ⟨s, hs, hle, hshift⟩ := ih h
              exact ⟨s, List.mem_cons_of_mem _ hs, hle, by rw [if_neg hout, hshift]⟩

/-- A character in front of the small letters is the lower-case form of itself alone. -/
theorem eq_of_lowerChar_eq (h : lowerChar c = d) (hd : d.toNat < 97) (hzero : d ≠ Char.ofNat 0) :
    c = d := by
  have hstretches : ∀ s ∈ lowerStretches, 97 ≤ s.1 + s.2.2.2 := by decide +kernel
  rw [lowerChar] at h
  split at h
  · exact h
  · next hshift =>
      obtain ⟨s, hs, hle, heq⟩ := exists_stretch hshift
      have hbound := hstretches s hs
      subst h
      rw [Char.toNat_ofNat] at hd
      split at hd
      · omega
      · next hinvalid =>
          exact absurd (by rw [Char.ofNat, dif_neg hinvalid]; rfl) hzero

end BuildGraph.Text
