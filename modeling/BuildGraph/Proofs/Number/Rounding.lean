import Mathlib
import BuildGraph.Number.Binary64

/-!
# Rounding to the 64 bit format

Away from the ends of the format, a positive number between two powers of two is rounded to a grid
of `2 ^ 52` steps between them (`nearest_eq`). That is off by half a step at most
(`abs_onGrid_sub_le`), keeps the order, and where integers are even multiples of the step, the
integer part afterwards is that of the number and half a step (`floor_onGrid`).
-/

namespace BuildGraph.Number

variable {r s : ℚ} {n e f : ℤ}

section Integers

theorem abs_roundHalfEven_sub_le (r : ℚ) : |(roundHalfEven r : ℚ) - r| ≤ 1 / 2 := by
  have hlow : (r.floor : ℚ) ≤ r := Int.floor_le r
  have hhigh : r < (r.floor : ℚ) + 1 := Int.lt_floor_add_one r
  have hhalf : mkRat 1 2 = 1 / 2 := by norm_num [Rat.mkRat_eq_div]
  rw [abs_le]
  unfold roundHalfEven
  rw [hhalf]
  dsimp only
  split_ifs <;> push_cast <;> constructor <;> linarith

theorem roundHalfEven_mono (h : r ≤ s) : roundHalfEven r ≤ roundHalfEven s := by
  have hr := abs_le.1 (abs_roundHalfEven_sub_le r)
  have hs := abs_le.1 (abs_roundHalfEven_sub_le s)
  by_contra hlt
  have hcast : (roundHalfEven s : ℚ) + 1 ≤ roundHalfEven r := by exact_mod_cast not_le.1 hlt
  -- both are off by a half, so the numbers are one
  obtain rfl : r = s := by linarith [hr.2, hs.1]
  exact hlt le_rfl

/-- An even integer is reached from half a unit below it on. -/
theorem le_roundHalfEven_iff (hn : Even n) : n ≤ roundHalfEven r ↔ (n : ℚ) - 1 / 2 ≤ r := by
  have hnear := abs_le.1 (abs_roundHalfEven_sub_le r)
  constructor
  · intro h
    have hcast : (n : ℚ) ≤ roundHalfEven r := by exact_mod_cast h
    linarith [hnear.2]
  · intro h
    by_contra hlt
    -- otherwise the number is halfway between the integer and the odd one below
    have hbelow : (roundHalfEven r : ℚ) ≤ n - 1 := by
      exact_mod_cast Int.le_sub_one_of_lt (not_le.1 hlt)
    have hhalf : r = n - 1 / 2 := le_antisymm (by linarith [hnear.1]) h
    have hfloor : r.floor = n - 1 := by
      change ⌊r⌋ = n - 1
      rw [Int.floor_eq_iff, hhalf]
      push_cast
      constructor <;> linarith
    have hpart : r - (r.floor : ℚ) = mkRat 1 2 := by
      rw [hfloor, hhalf, Rat.mkRat_eq_div]
      push_cast
      ring
    have hodd : r.floor % 2 ≠ 0 := by
      obtain ⟨m, rfl⟩ := hn
      omega
    have hvalue : roundHalfEven r = n := by
      unfold roundHalfEven
      dsimp only
      rw [if_neg hpart.not_lt, if_neg hpart.not_gt, if_neg hodd, hfloor]
      ring
    exact hlt hvalue.ge

theorem roundHalfEven_intCast (n : ℤ) : roundHalfEven (n : ℚ) = n := by
  have hfloor : (n : ℚ).floor = n := Rat.floor_intCast n
  simp [roundHalfEven, hfloor, Rat.mkRat_eq_div]

theorem truncate_eq_floor (h : 0 ≤ r) : truncate r = ⌊r⌋ := by
  rw [truncate, Int.tdiv_eq_ediv_of_nonneg (Rat.num_nonneg.2 h)]
  exact (Rat.floor_def r).symm

end Integers

section Powers

theorem twoPow_eq (e : ℤ) : twoPow e = 2 ^ e := by
  rw [twoPow]
  split_ifs with h
  · obtain ⟨k, rfl⟩ := Int.eq_ofNat_of_zero_le h
    simp
  · obtain ⟨k, hk⟩ := Int.eq_ofNat_of_zero_le (by omega : 0 ≤ -e)
    obtain rfl : e = -(k : ℤ) := by omega
    simp [Rat.mkRat_eq_div]

/-- A number lies between one pair of neighbouring powers of two only. -/
theorem eq_of_between_powers (hlow : 2 ^ e ≤ r) (hhigh : r < 2 ^ (e + 1)) (hlow' : 2 ^ f ≤ r)
    (hhigh' : r < 2 ^ (f + 1)) : e = f := by
  have hef : e < f + 1 := (zpow_lt_zpow_iff_right₀ one_lt_two).1 (hlow.trans_lt hhigh')
  have hfe : f < e + 1 := (zpow_lt_zpow_iff_right₀ one_lt_two).1 (hlow'.trans_lt hhigh)
  omega

/-- The exponent of a quotient is the difference of the exponents or one less. -/
theorem between_quotient {p q : ℚ} (hp : 2 ^ e ≤ p ∧ p < 2 ^ (e + 1))
    (hq : 2 ^ f ≤ q ∧ q < 2 ^ (f + 1)) :
    2 ^ (e - f - 1) < p / q ∧ p / q < 2 ^ (e - f + 1) := by
  have hpos : 0 < q := (zpow_pos two_pos f).trans_le hq.1
  rw [lt_div_iff₀ hpos, div_lt_iff₀ hpos]
  constructor
  · calc (2 : ℚ) ^ (e - f - 1) * q
        < 2 ^ (e - f - 1) * 2 ^ (f + 1) := mul_lt_mul_of_pos_left hq.2 (zpow_pos two_pos _)
      _ = 2 ^ e := by rw [← zpow_add₀ two_ne_zero]; congr 1; ring
      _ ≤ p := hp.1
  · calc p < 2 ^ (e + 1) := hp.2
      _ = 2 ^ (e - f + 1) * 2 ^ f := by rw [← zpow_add₀ two_ne_zero]; congr 1; ring
      _ ≤ 2 ^ (e - f + 1) * q := mul_le_mul_of_nonneg_left hq.1 (zpow_pos two_pos _).le

/-- A positive number lies between the powers of two of its exponent and of the next one. -/
theorem between_binaryExponent (hr : 0 < r) :
    2 ^ binaryExponent r ≤ r ∧ r < 2 ^ (binaryExponent r + 1) := by
  have hnum : 0 < r.num := Rat.num_pos.2 hr
  have hlog : ∀ m : ℕ, m ≠ 0 → (2 : ℚ) ^ (m.log2 : ℤ) ≤ m ∧ (m : ℚ) < 2 ^ ((m.log2 : ℤ) + 1) :=
    fun m hm => ⟨by exact_mod_cast Nat.log2_self_le hm, by exact_mod_cast Nat.lt_log2_self⟩
  have hvalue : (r.num.natAbs / r.den : ℚ) = r := by
    rw [Nat.cast_natAbs, abs_of_pos hnum, Rat.num_div_den]
  -- the guess from the two logarithms is right or one too large
  have hguess := between_quotient (hlog _ (Int.natAbs_ne_zero.2 hnum.ne')) (hlog _ r.den_nz)
  rw [hvalue] at hguess
  rw [binaryExponent, twoPow_eq]
  split_ifs with hless
  · exact ⟨hguess.1.le, by simpa using hless⟩
  · exact ⟨not_lt.1 hless, hguess.2⟩

end Powers

section Grid

/-- A number rounded to 53 binary digits, the first of which counts `2 ^ e`. -/
def onGrid (e : ℤ) (r : ℚ) : ℚ := roundHalfEven (r / 2 ^ (e - 52)) * 2 ^ (e - 52)

/-- Rounding is off by half a step of the grid at most. -/
theorem abs_onGrid_sub_le (e : ℤ) (r : ℚ) : |onGrid e r - r| ≤ 2 ^ (e - 53) := by
  have hstep : (0 : ℚ) < 2 ^ (e - 52) := zpow_pos two_pos _
  have hnear := mul_le_mul_of_nonneg_right (abs_roundHalfEven_sub_le (r / 2 ^ (e - 52))) hstep.le
  calc |onGrid e r - r|
      = |(roundHalfEven (r / 2 ^ (e - 52)) : ℚ) - r / 2 ^ (e - 52)| * 2 ^ (e - 52) := by
        rw [← abs_of_pos hstep, ← abs_mul, abs_of_pos hstep, sub_mul, onGrid,
          div_mul_cancel₀ _ hstep.ne']
    _ ≤ 1 / 2 * 2 ^ (e - 52) := hnear
    _ = 2 ^ (e - 53) := by
        rw [show e - 52 = e - 53 + 1 by ring, zpow_add_one₀ two_ne_zero]
        ring

theorem onGrid_mono (e : ℤ) (h : r ≤ s) : onGrid e r ≤ onGrid e s := by
  have hstep : (0 : ℚ) < 2 ^ (e - 52) := zpow_pos two_pos _
  have hround := roundHalfEven_mono (div_le_div_of_nonneg_right h hstep.le)
  exact mul_le_mul_of_nonneg_right (by exact_mod_cast hround) hstep.le

/-- A multiple of the step is on the grid. -/
theorem onGrid_of_multiple (h : r = n * 2 ^ (e - 52)) : onGrid e r = r := by
  rw [onGrid, h, mul_div_cancel_right₀ _ (zpow_pos two_pos _).ne', roundHalfEven_intCast]

/-- A rounded number lies between the same powers of two. -/
theorem onGrid_between (hlow : 2 ^ e ≤ r) (hhigh : r < 2 ^ (e + 1)) :
    2 ^ e ≤ onGrid e r ∧ onGrid e r ≤ 2 ^ (e + 1) := by
  have hfirst : onGrid e (2 ^ e) = 2 ^ e := by
    refine onGrid_of_multiple (n := 2 ^ 52) ?_
    rw [zpow_sub₀ two_ne_zero]
    norm_num
    ring
  have hlast : onGrid e (2 ^ (e + 1)) = 2 ^ (e + 1) := by
    refine onGrid_of_multiple (n := 2 ^ 53) ?_
    rw [zpow_sub₀ two_ne_zero, zpow_add_one₀ two_ne_zero]
    norm_num
    ring
  exact ⟨hfirst ▸ onGrid_mono e hlow, hlast ▸ onGrid_mono e hhigh.le⟩

/-- Rounding keeps the order, also across powers of two. -/
theorem onGrid_le_onGrid (hr : 2 ^ e ≤ r ∧ r < 2 ^ (e + 1)) (hs : 2 ^ f ≤ s ∧ s < 2 ^ (f + 1))
    (h : r ≤ s) : onGrid e r ≤ onGrid f s := by
  have hef : e < f + 1 :=
    (zpow_lt_zpow_iff_right₀ one_lt_two).1 (hr.1.trans_lt (h.trans_lt hs.2))
  rcases (Int.lt_add_one_iff.1 hef).eq_or_lt with rfl | hlt
  · exact onGrid_mono e h
  · calc onGrid e r ≤ 2 ^ (e + 1) := (onGrid_between hr.1 hr.2).2
      _ ≤ 2 ^ f := zpow_le_zpow_right₀ one_le_two hlt
      _ ≤ onGrid f s := (onGrid_between hs.1 hs.2).1

/-- A number between two powers of two is rounded to the grid between them. -/
theorem nearest_eq (hlow : 2 ^ e ≤ r) (hhigh : r < 2 ^ (e + 1)) (hmin : -1022 ≤ e)
    (hmax : e < 1023) : Binary64.nearest r = .finite (onGrid e r) := by
  have hpos : 0 < r := (zpow_pos two_pos e).trans_le hlow
  obtain ⟨hlow', hhigh'⟩ := between_binaryExponent hpos
  have hexponent := eq_of_between_powers hlow' hhigh' hlow hhigh
  have hunit : max (-1074) (e - 52) = e - 52 := max_eq_right (by omega)
  have hfinite : ¬ (2 : ℚ) ^ (1024 : ℤ) ≤ onGrid e r := by
    refine not_le.2 ((onGrid_between hlow hhigh).2.trans_lt ?_)
    exact (zpow_lt_zpow_iff_right₀ one_lt_two).2 (by omega)
  rw [Binary64.nearest, if_neg hpos.ne']
  simp only [if_neg hpos.not_gt, hexponent, hunit, twoPow_eq]
  exact if_neg hfinite

/-- Where integers are even multiples of the step, the integer part of a rounded number is that of
the number and half a step. -/
theorem floor_onGrid (he : e ≤ 51) (r : ℚ) : ⌊onGrid e r⌋ = ⌊r + 2 ^ (e - 53)⌋ := by
  obtain ⟨k, hk⟩ := Int.eq_ofNat_of_zero_le (by omega : 0 ≤ 51 - e)
  have hstep : (2 : ℚ) ^ (e - 52) = (2 ^ (k + 1))⁻¹ := by
    rw [show e - 52 = -((k + 1 : ℕ) : ℤ) by push_cast; omega, zpow_neg, zpow_natCast]
  have hhalf : (2 : ℚ) ^ (e - 53) = 1 / 2 / 2 ^ (k + 1) := by
    rw [show e - 53 = e - 52 - 1 by ring, zpow_sub_one₀ two_ne_zero, hstep]
    ring
  have hpos : (0 : ℚ) < 2 ^ (k + 1) := by positivity
  refine eq_of_forall_le_iff fun n => ?_
  rw [Int.le_floor, Int.le_floor, onGrid, hstep, hhalf, div_inv_eq_mul, ← div_eq_mul_inv,
    le_div_iff₀ hpos]
  have heven : Even (n * 2 ^ (k + 1)) := ⟨n * 2 ^ k, by ring⟩
  calc (n : ℚ) * 2 ^ (k + 1) ≤ roundHalfEven (r * 2 ^ (k + 1))
      ↔ n * 2 ^ (k + 1) ≤ roundHalfEven (r * 2 ^ (k + 1)) := by exact_mod_cast Iff.rfl
    _ ↔ ((n * 2 ^ (k + 1) : ℤ) : ℚ) - 1 / 2 ≤ r * 2 ^ (k + 1) := le_roundHalfEven_iff heven
    _ ↔ (n * 2 ^ (k + 1) - 1 / 2) / 2 ^ (k + 1) ≤ r := by
        rw [div_le_iff₀ hpos]
        push_cast
        rfl
    _ ↔ (n : ℚ) ≤ r + 1 / 2 / 2 ^ (k + 1) := by
        rw [sub_div, mul_div_cancel_right₀ _ hpos.ne', sub_le_iff_le_add]

/-- The integer part of a rounded number is that of the number and half a step. -/
theorem toInt_nearest (hlow : 2 ^ e ≤ r) (hhigh : r < 2 ^ (e + 1)) (hmin : -1022 ≤ e)
    (hmax : e ≤ 51) : (Binary64.nearest r).toInt = ⌊r + 2 ^ (e - 53)⌋ := by
  have hnonneg : 0 ≤ onGrid e r := (zpow_pos two_pos e).le.trans (onGrid_between hlow hhigh).1
  rw [nearest_eq hlow hhigh hmin (by omega), Binary64.toInt, truncate_eq_floor hnonneg,
    floor_onGrid hmax]

end Grid

end BuildGraph.Number
