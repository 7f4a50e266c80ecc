import BuildGraph.Proofs.Number.Rounding
import BuildGraph.Time.Timestamp

/-!
# Durations in milliseconds

A duration is told in milliseconds by way of its seconds in the 64 bit format. The product with a
thousand is rounded as well, but as far as its integer part goes that only adds half a step of the
grid there: `raised`, `Spans.milliseconds_eq_floor`. So one is lost where rounding the seconds cuts
more than that half a step, which whole milliseconds just below a power of two may suffer:
`FallsShort`, `Spans.milliseconds_of_whole`. `tells_milliseconds` collects what the number tells of
a duration, and `milliseconds_mono` says that it keeps the order.
-/

namespace BuildGraph.Duration

open BuildGraph.Number

variable {micros longer m : ℕ} {e f : ℤ}

section Spans

/-- Between which powers of two the seconds of a duration lie. -/
structure Spans (e : ℤ) (micros : ℕ) : Prop where
  low : 2 ^ e ≤ (micros / 1000000 : ℚ)
  high : (micros / 1000000 : ℚ) < 2 ^ (e + 1)

theorem exists_spans (h : 0 < micros) : ∃ e, Spans e micros := by
  have hpos : (0 : ℚ) < micros / 1000000 := by positivity
  obtain ⟨hlow, hhigh⟩ := between_binaryExponent hpos
  exact ⟨_, hlow, hhigh⟩

theorem Spans.pos (h : Spans e micros) : 0 < micros := by
  have hseconds := (zpow_pos (two_pos : (0 : ℚ) < 2) e).trans_le h.low
  by_contra hzero
  simp [Nat.eq_zero_of_not_pos hzero] at hseconds

theorem Spans.le_exponent (h : Spans e micros) (hf : (2 : ℚ) ^ f ≤ micros / 1000000) : f ≤ e :=
  Int.lt_add_one_iff.1 ((zpow_lt_zpow_iff_right₀ one_lt_two).1 (hf.trans_lt h.high))

/-- A duration is a microsecond at least. -/
theorem Spans.exponent_ge (h : Spans e micros) : -20 ≤ e := by
  have hone : (1 : ℚ) ≤ micros := by exact_mod_cast h.pos
  refine h.le_exponent ((?_ : _ ≤ (1 / 1000000 : ℚ)).trans ?_)
  · norm_num
  · linarith

/-- A duration under a power of two of seconds has a smaller exponent. -/
theorem Spans.exponent_lt (h : Spans e micros) {k : ℕ} (hmicros : micros < 2 ^ k * 1000000) :
    e < k := by
  have hcast : (micros : ℚ) < 2 ^ (k : ℤ) * 1000000 := by exact_mod_cast hmicros
  refine (zpow_lt_zpow_iff_right₀ (one_lt_two : (1 : ℚ) < 2)).1 (h.low.trans_lt ?_)
  linarith

/-- The step of the grid is bounded by the exponent. -/
theorem step_le {k : ℕ} (h : e ≤ 52 - k) : (2 : ℚ) ^ (e - 52) ≤ 1 / 2 ^ k := by
  rw [one_div, ← zpow_natCast, ← zpow_neg]
  exact zpow_le_zpow_right₀ one_le_two (by omega)

end Spans

section Floors

/-- The seconds of a duration, rounded, a thousand times, and half a step of the grid there. -/
def raised (e : ℤ) (micros : ℕ) : ℚ :=
  onGrid e (micros / 1000000) * 1000 +
    if onGrid e (micros / 1000000) * 1000 < 2 ^ (e + 10) then 2 ^ (e - 44) else 2 ^ (e - 43)

/-- The milliseconds of a duration are the integer part of its raised seconds. -/
theorem Spans.milliseconds_eq_floor (h : Spans e micros) (hmax : e ≤ 38) :
    milliseconds micros = ⌊raised e micros⌋ := by
  have hmin := h.exponent_ge
  obtain ⟨hseconds, hseconds'⟩ := onGrid_between h.low h.high
  have hrounded : Binary64.ofQuotient micros Timestamp.second =
      .finite (onGrid e (micros / 1000000)) := by
    rw [Binary64.ofQuotient, Rat.mkRat_eq_div]
    exact nearest_eq h.low h.high (by omega) (by omega)
  rw [milliseconds, hrounded, Binary64.mulNat, raised]
  generalize onGrid e (micros / 1000000) = seconds at *
  have hlow : 2 ^ (e + 9) ≤ seconds * 1000 := by
    rw [zpow_add₀ two_ne_zero]
    norm_num
    linarith [zpow_pos (two_pos : (0 : ℚ) < 2) e]
  have hhigh : seconds * 1000 < 2 ^ (e + 10 + 1) := by
    rw [zpow_add_one₀ two_ne_zero] at hseconds'
    rw [add_assoc, zpow_add₀ two_ne_zero]
    norm_num
    linarith [zpow_pos (two_pos : (0 : ℚ) < 2) e]
  push_cast
  -- the product lies between one of two pairs of powers of two
  split_ifs with hless
  · rw [toInt_nearest hlow (by rwa [add_assoc]) (by omega) (by omega)]
    congr 3
    ring
  · rw [toInt_nearest (not_lt.1 hless) hhigh (by omega) (by omega)]
    congr 3
    ring

/-- Raised seconds are near the milliseconds. -/
theorem raised_between (e : ℤ) (micros : ℕ) :
    micros / 1000 - 244 * 2 ^ (e - 52) ≤ raised e micros ∧
      raised e micros ≤ micros / 1000 + 1012 * 2 ^ (e - 52) := by
  have hnear := abs_le.1 (abs_onGrid_sub_le e (micros / 1000000))
  have hhalf : (2 : ℚ) ^ (e - 53) = 2 ^ (e - 52) / 2 := by
    rw [show e - 53 = e - 52 - 1 by ring, zpow_sub_one₀ two_ne_zero]
    ring
  have hlow : (2 : ℚ) ^ (e - 44) = 256 * 2 ^ (e - 52) := by
    rw [show e - 44 = 8 + (e - 52) by ring, zpow_add₀ two_ne_zero]
    norm_num
  have hhigh : (2 : ℚ) ^ (e - 43) = 512 * 2 ^ (e - 52) := by
    rw [show e - 43 = 9 + (e - 52) by ring, zpow_add₀ two_ne_zero]
    norm_num
  have hstep : (0 : ℚ) < 2 ^ (e - 52) := zpow_pos two_pos _
  rw [raised, hlow, hhigh]
  rw [hhalf] at hnear
  generalize (2 : ℚ) ^ (e - 52) = step at *
  generalize onGrid e (micros / 1000000) = seconds at *
  split_ifs <;> constructor <;> linarith

/-- A duration is its whole milliseconds and a rest. -/
theorem whole_and_rest (micros : ℕ) :
    (micros / 1000 : ℚ) = (micros / 1000 : ℕ) + (micros % 1000 : ℕ) / 1000 := by
  have hsum : (1000 * (micros / 1000 : ℕ) + (micros % 1000 : ℕ) : ℚ) = micros := by
    exact_mod_cast Nat.div_add_mod micros 1000
  linarith

theorem rest_lt (micros : ℕ) : ((micros % 1000 : ℕ) : ℚ) + 1 ≤ 1000 := by
  exact_mod_cast Nat.mod_lt micros (by norm_num)

/-- The whole milliseconds are told if the rest is not too near to either end. -/
theorem Spans.milliseconds_of_margin (h : Spans e micros) (hmax : e ≤ 38)
    (hbelow : 244000 * 2 ^ (e - 52) ≤ ((micros % 1000 : ℕ) : ℚ))
    (habove : ((micros % 1000 : ℕ) : ℚ) + 1012000 * 2 ^ (e - 52) < 1000) :
    milliseconds micros = (micros / 1000 : ℕ) := by
  obtain ⟨hlow, hhigh⟩ := raised_between e micros
  rw [whole_and_rest] at hlow hhigh
  rw [h.milliseconds_eq_floor hmax, Int.floor_eq_iff, Int.cast_natCast]
  constructor <;> linarith

/-- The milliseconds are one away from the whole ones at most. -/
theorem Spans.milliseconds_near (h : Spans e micros) (hmax : e ≤ 38) :
    (micros / 1000 : ℕ) - 1 ≤ milliseconds micros ∧
      milliseconds micros ≤ (micros / 1000 : ℕ) + 1 := by
  obtain ⟨hlow, hhigh⟩ := raised_between e micros
  have hstep : (2 : ℚ) ^ (e - 52) ≤ 1 / 2 ^ 14 := step_le (by omega)
  have hrest := rest_lt micros
  have hnonneg : (0 : ℚ) ≤ (micros % 1000 : ℕ) := Nat.cast_nonneg _
  rw [whole_and_rest] at hlow hhigh
  norm_num at hstep
  rw [h.milliseconds_eq_floor hmax, Int.le_floor, ← Int.lt_add_one_iff, Int.floor_lt]
  generalize micros / 1000 = whole at *
  push_cast
  constructor <;> linarith

/-- The whole milliseconds are told if the rest is neither nearly nothing nor nearly one more. -/
theorem Spans.milliseconds_of_between (h : Spans e micros) (hmax : e ≤ 38)
    (hlow : 15 ≤ micros % 1000) (hhigh : micros % 1000 ≤ 938) :
    milliseconds micros = (micros / 1000 : ℕ) := by
  have hstep : (2 : ℚ) ^ (e - 52) ≤ 1 / 2 ^ 14 := step_le (by omega)
  have hlow' : (15 : ℚ) ≤ (micros % 1000 : ℕ) := by exact_mod_cast hlow
  have hhigh' : ((micros % 1000 : ℕ) : ℚ) ≤ 938 := by exact_mod_cast hhigh
  norm_num at hstep
  exact h.milliseconds_of_margin hmax (by linarith) (by linarith)

/-- Up to `2 ^ 33` seconds the whole milliseconds are told if there is a rest. -/
theorem Spans.milliseconds_of_rest (h : Spans e micros) (hmax : e ≤ 32)
    (hrest : ¬ 1000 ∣ micros) : milliseconds micros = (micros / 1000 : ℕ) := by
  have hstep : (2 : ℚ) ^ (e - 52) ≤ 1 / 2 ^ 20 := step_le (by omega)
  have hlow : (1 : ℚ) ≤ (micros % 1000 : ℕ) := by
    exact_mod_cast Nat.pos_of_ne_zero fun hzero => hrest (Nat.dvd_of_mod_eq_zero hzero)
  have hhigh := rest_lt micros
  norm_num at hstep
  exact h.milliseconds_of_margin (by omega) (by linarith) (by linarith)

end Floors

/-- Whole milliseconds of which one is lost: they lie below a power of two, by three parts in 128 of
it at most, and rounding their seconds cuts more than half a step of the grid there. The remainder
counts what is cut in 64ths of a step. -/
def FallsShort (m : ℕ) : Prop :=
  125 * 2 ^ (m.log2 + 1) ≤ 128 * m ∧ 33 ≤ m * 2 ^ (58 - m.log2) % 125 ∧
    m * 2 ^ (58 - m.log2) % 125 ≤ 62

instance (m : ℕ) : Decidable (FallsShort m) := inferInstanceAs (Decidable (_ ∧ _))

section Whole

/-- The span of whole milliseconds, without fractions. -/
theorem Spans.of_whole (h : Spans e (1000 * m)) :
    ∃ p : ℕ, e = p - 10 ∧ 125 * 2 ^ p ≤ 128 * m ∧ 64 * m < 125 * 2 ^ p := by
  have hone : (1 : ℚ) ≤ m := by exact_mod_cast Nat.pos_of_mul_pos_left h.pos
  have hexponent : -10 ≤ e := by
    refine h.le_exponent ((?_ : _ ≤ (1 / 1000 : ℚ)).trans ?_)
    · norm_num
    · push_cast
      linarith
  obtain ⟨p, hp⟩ := Int.eq_ofNat_of_zero_le (by omega : 0 ≤ e + 10)
  obtain rfl : e = p - 10 := by omega
  obtain ⟨hlow, hhigh⟩ := h
  push_cast at hlow hhigh
  refine ⟨p, rfl, ?_, ?_⟩
  · rw [zpow_sub₀ two_ne_zero] at hlow
    norm_num at hlow
    have hcast : (125 * 2 ^ p : ℚ) ≤ 128 * m := by linarith
    exact_mod_cast hcast
  · rw [show (p : ℤ) - 10 + 1 = p - 9 by ring, zpow_sub₀ two_ne_zero] at hhigh
    norm_num at hhigh
    have hcast : (64 * m : ℚ) < 125 * 2 ^ p := by linarith
    exact_mod_cast hcast

/-- What rounding the seconds cuts from whole milliseconds is a remainder by 125. In the span of
exponent `p - 10` seconds have `N + 3` binary places. -/
theorem exists_cut (m : ℕ) {p N : ℕ} (hp : p + N = 59) :
    ∃ cut : ℤ, -62 ≤ cut ∧ cut ≤ 62 ∧ 125 ∣ m * 2 ^ N - cut ∧
      onGrid (p - 10) ((1000 * m : ℕ) / 1000000) * 1000 = m - cut / 2 ^ N := by
  have hpos : (0 : ℚ) < 2 ^ N := by positivity
  have hstep : (2 : ℚ) ^ ((p : ℤ) - 10 - 52) = (8 * 2 ^ N)⁻¹ := by
    rw [show (p : ℤ) - 10 - 52 = -((N + 3 : ℕ) : ℤ) by omega, zpow_neg, zpow_natCast, pow_add]
    norm_num [mul_comm]
  have hsteps : ((1000 * m : ℕ) : ℚ) / 1000000 / (8 * 2 ^ N)⁻¹ = m * 2 ^ N / 125 := by
    push_cast
    rw [div_inv_eq_mul]
    ring
  have hnear := abs_le.1 (abs_roundHalfEven_sub_le (m * 2 ^ N / 125))
  rw [onGrid, hstep, hsteps]
  generalize roundHalfEven (m * 2 ^ N / 125) = steps at *
  have hbounds : -125 ≤ 2 * (m * 2 ^ N - 125 * steps : ℤ) ∧
      2 * (m * 2 ^ N - 125 * steps : ℤ) ≤ 125 := by
    constructor
    · have hcast : (-125 : ℚ) ≤ 2 * (m * 2 ^ N - 125 * steps) := by linarith
      exact_mod_cast hcast
    · have hcast : (2 * (m * 2 ^ N - 125 * steps) : ℚ) ≤ 125 := by linarith
      exact_mod_cast hcast
  refine ⟨m * 2 ^ N - 125 * steps, by omega, by omega, ⟨steps, by ring⟩, ?_⟩
  push_cast
  field_simp
  ring

/-- Whole milliseconds fall short exactly if more is cut than half a step and the product then lies
below the power of two. -/
theorem fallsShort_iff {p N : ℕ} {cut : ℤ} (hp : p + N = 59) (hN : 17 ≤ N)
    (hlow : 125 * 2 ^ p ≤ 128 * m) (hhigh : 64 * m < 125 * 2 ^ p) (hcut : -62 ≤ cut ∧ cut ≤ 62)
    (hdvd : 125 ∣ m * 2 ^ N - cut) :
    FallsShort m ↔ 33 ≤ cut ∧ m * 2 ^ N - cut < 2 ^ 59 := by
  obtain ⟨steps, hsteps⟩ : ∃ steps : ℕ, m * 2 ^ N = steps := ⟨_, rfl⟩
  have hcast : (m * 2 ^ N : ℤ) = steps := by exact_mod_cast hsteps
  have hpower : steps < 2 ^ 59 ↔ m < 2 ^ p := by
    rw [← hsteps, ← hp, pow_add, Nat.mul_lt_mul_right (by positivity)]
  rw [hcast] at hdvd ⊢
  constructor
  · rintro ⟨hbelow, hremainder⟩
    have hlog := Nat.lt_log2_self (n := m)
    -- the power of two above the milliseconds is the one of their span
    have hsame : m.log2 + 1 = p := by
      have hle : m.log2 + 1 < p + 1 := (Nat.pow_lt_pow_iff_right one_lt_two).1 (by omega)
      have hge : p < m.log2 + 1 + 1 := (Nat.pow_lt_pow_iff_right one_lt_two).1 (by omega)
      omega
    rw [show 58 - m.log2 = N by omega, hsteps] at hremainder
    have hless := hpower.2 (hsame ▸ hlog)
    omega
  · rintro ⟨hcut', hless⟩
    have hbelow : m < 2 ^ p := by
      by_contra hnot
      rcases (not_lt.1 hnot).eq_or_lt with hsame | hmore
      · -- a power of two is rounded up
        have hexact : steps = 2 ^ 59 := by rw [← hsteps, ← hsame, ← pow_add, hp]
        omega
      · have hwide : 2 ^ 17 ≤ 2 ^ N := Nat.pow_le_pow_right two_pos hN
        have hmany := Nat.mul_le_mul_right (2 ^ N) (Nat.succ_le_of_lt hmore)
        rw [Nat.succ_mul, ← pow_add, hp, hsteps] at hmany
        omega
    obtain ⟨q, rfl⟩ : ∃ q, p = q + 1 := Nat.exists_eq_succ_of_ne_zero (by rintro rfl; omega)
    have hlog : m.log2 = q := (Nat.log2_eq_iff (by rintro rfl; omega)).2 ⟨by omega, hbelow⟩
    rw [FallsShort, hlog, show 58 - q = N by omega, hsteps]
    omega

/-- The integer part of a number that was cut by some steps and raised by others. -/
theorem floor_cut {steps : ℤ} (m : ℕ) {N : ℕ} (hN : 17 ≤ N) (hsteps : -126 ≤ steps ∧ steps ≤ 126) :
    ⌊(m : ℚ) + steps / 2 ^ N⌋ = if steps < 0 then (m : ℤ) - 1 else m := by
  have hwide : (2 : ℚ) ^ 17 ≤ 2 ^ N := pow_le_pow_right₀ one_le_two hN
  have hpos : (0 : ℚ) < 2 ^ N := by positivity
  have hlow : (-126 : ℚ) ≤ steps := by exact_mod_cast hsteps.1
  have hhigh : (steps : ℚ) ≤ 126 := by exact_mod_cast hsteps.2
  split_ifs with hneg
  · have hless : (steps : ℚ) < 0 := by exact_mod_cast hneg
    have hquotient : -1 ≤ (steps : ℚ) / 2 ^ N := by
      rw [le_div_iff₀ hpos]
      linarith
    rw [Int.floor_eq_iff]
    push_cast
    constructor <;> linarith [div_neg_of_neg_of_pos hless hpos]
  · have hmore : (0 : ℚ) ≤ steps := by exact_mod_cast not_lt.1 hneg
    have hquotient : (steps : ℚ) / 2 ^ N < 1 := by
      rw [div_lt_iff₀ hpos]
      linarith
    rw [Int.floor_eq_iff]
    push_cast
    constructor <;> linarith [div_nonneg hmore hpos.le]

/-- Raised seconds of whole milliseconds: half a step is 32 or 64 of the parts that are cut. -/
theorem raised_whole {p N : ℕ} {cut : ℤ} (hp : p + N = 59)
    (hrounded : onGrid (p - 10) ((1000 * m : ℕ) / 1000000) * 1000 = m - cut / 2 ^ N) :
    raised (p - 10) (1000 * m) =
      m + ((if m * 2 ^ N - cut < 2 ^ 59 then 32 else 64) - cut : ℤ) / 2 ^ N := by
  have hpos : (0 : ℚ) < 2 ^ N := by positivity
  have hbelow : (m : ℚ) - cut / 2 ^ N < 2 ^ ((p : ℤ) - 10 + 10) ↔ m * 2 ^ N - cut < 2 ^ 59 := by
    rw [sub_add_cancel, zpow_natCast, ← mul_lt_mul_iff_left₀ hpos, sub_mul,
      div_mul_cancel₀ _ hpos.ne', ← pow_add, hp]
    exact_mod_cast Iff.rfl
  have hlower : (2 : ℚ) ^ ((p : ℤ) - 10 - 44) = 32 / 2 ^ N := by
    rw [show (p : ℤ) - 10 - 44 = 5 - N by omega, zpow_sub₀ two_ne_zero, zpow_natCast]
    norm_num
  have hupper : (2 : ℚ) ^ ((p : ℤ) - 10 - 43) = 64 / 2 ^ N := by
    rw [show (p : ℤ) - 10 - 43 = 6 - N by omega, zpow_sub₀ two_ne_zero, zpow_natCast]
    norm_num
  rw [raised, hrounded, hlower, hupper, if_congr hbelow rfl rfl]
  split_ifs <;> push_cast <;> ring

/-- Up to `2 ^ 33` seconds whole milliseconds are told, or one less if they fall short. -/
theorem Spans.milliseconds_of_whole (h : Spans e (1000 * m)) (hmax : e ≤ 32) :
    milliseconds (1000 * m : ℕ) = if FallsShort m then (m : ℤ) - 1 else m := by
  obtain ⟨p, rfl, hlow, hhigh⟩ := h.of_whole
  obtain ⟨N, hN⟩ : ∃ N, p + N = 59 := ⟨59 - p, by omega⟩
  obtain ⟨cut, hcut, hcut', hdvd, hrounded⟩ := exists_cut m hN
  rw [h.milliseconds_eq_floor (by omega), raised_whole hN hrounded,
    floor_cut m (by omega) (by split_ifs <;> omega)]
  refine if_congr ?_ rfl rfl
  rw [fallsShort_iff hN (by omega) hlow hhigh ⟨hcut, hcut'⟩ hdvd]
  split_ifs <;> omega

/-- Under a second no whole milliseconds fall short. -/
example : ∀ m < 1000, ¬ FallsShort m := by decide +kernel

end Whole

section Seconds

/-- Whole seconds are told as they are. -/
theorem Spans.milliseconds_of_seconds {seconds : ℕ} (h : Spans e (1000000 * seconds))
    (hmax : e ≤ 38) : milliseconds (1000000 * seconds : ℕ) = (1000 * seconds : ℕ) := by
  obtain ⟨k, hk⟩ := Int.eq_ofNat_of_zero_le (by omega : 0 ≤ 52 - e)
  have hexact : ((1000000 * seconds : ℕ) / 1000000 : ℚ) = seconds := by
    push_cast
    ring
  have hmultiple : (seconds : ℚ) = ((seconds * 2 ^ k : ℕ) : ℤ) * 2 ^ (e - 52) := by
    rw [show e - 52 = -(k : ℤ) by omega, zpow_neg, zpow_natCast]
    push_cast
    field_simp
  have hraise : ∀ f : ℤ, f ≤ e - 43 → (0 : ℚ) < 2 ^ f ∧ (2 : ℚ) ^ f < 1 := fun f hf =>
    ⟨zpow_pos two_pos f, zpow_lt_one_of_neg₀ one_lt_two (by omega)⟩
  obtain ⟨hlow, hlow'⟩ := hraise (e - 44) (by omega)
  obtain ⟨hhigh, hhigh'⟩ := hraise (e - 43) le_rfl
  rw [h.milliseconds_eq_floor hmax, raised, hexact, onGrid_of_multiple hmultiple, Int.floor_eq_iff]
  push_cast
  split_ifs <;> constructor <;> linarith

end Seconds

section Order

/-- Raised seconds keep the order of durations. -/
theorem raised_le_raised (h : Spans e micros) (h' : Spans f longer) (hle : micros ≤ longer) :
    raised e micros ≤ raised f longer := by
  have hseconds : (micros / 1000000 : ℚ) ≤ longer / 1000000 :=
    div_le_div_of_nonneg_right (by exact_mod_cast hle) (by norm_num)
  have hgrid := onGrid_le_onGrid ⟨h.low, h.high⟩ ⟨h'.low, h'.high⟩ hseconds
  have hef : e ≤ f := h'.le_exponent (h.low.trans hseconds)
  have hpower : ∀ a b : ℤ, a ≤ b → (2 : ℚ) ^ a ≤ 2 ^ b := fun a b => zpow_le_zpow_right₀ one_le_two
  rw [raised, raised]
  rcases hef.eq_or_lt with rfl | hlt
  · split_ifs with hless hless'
    · linarith
    · linarith [hpower (e - 44) (e - 43) (by omega)]
    · linarith
    · linarith
  · split_ifs <;> linarith [hpower (e - 44) (f - 44) (by omega), hpower (e - 44) (f - 43) (by omega),
      hpower (e - 43) (f - 44) (by omega), hpower (e - 43) (f - 43) (by omega)]

theorem Spans.raised_nonneg (h : Spans e micros) : 0 ≤ raised e micros := by
  have hseconds := (zpow_pos (two_pos : (0 : ℚ) < 2) e).le.trans (onGrid_between h.low h.high).1
  have hraise : ∀ f : ℤ, (0 : ℚ) ≤ 2 ^ f := fun f => (zpow_pos two_pos f).le
  rw [raised]
  split_ifs <;> linarith [hraise (e - 44), hraise (e - 43)]

theorem milliseconds_zero : milliseconds 0 = 0 := by decide +kernel

/-- Of two durations the longer one has as many milliseconds at least. -/
theorem milliseconds_mono (hle : micros ≤ longer) (hlonger : longer < 2 ^ 39 * 1000000) :
    milliseconds micros ≤ milliseconds longer := by
  rcases Nat.eq_zero_or_pos longer with rfl | hpos'
  · rw [Nat.le_zero.1 hle]
  obtain ⟨f, h'⟩ := exists_spans hpos'
  have hf := h'.exponent_lt hlonger
  rw [h'.milliseconds_eq_floor (by omega)]
  rcases Nat.eq_zero_or_pos micros with rfl | hpos
  · rw [Nat.cast_zero, milliseconds_zero]
    exact Int.floor_nonneg.2 h'.raised_nonneg
  · obtain ⟨e, h⟩ := exists_spans hpos
    have he := h.exponent_lt (hle.trans_lt hlonger)
    rw [h.milliseconds_eq_floor (by omega)]
    exact Int.floor_mono (raised_le_raised h h' hle)

end Order

/-- What a number of milliseconds tells of a difference of `micros` microseconds. -/
structure Tells (micros : ℕ) (ms : ℤ) : Prop where
  /-- It is one away from the number of whole milliseconds at most. -/
  near : (micros / 1000 : ℕ) - 1 ≤ ms ∧ ms ≤ (micros / 1000 : ℕ) + 1
  /-- It is that number when what remains is neither nearly nothing nor nearly a millisecond. -/
  of_between : 15 ≤ micros % 1000 → micros % 1000 ≤ 938 → ms = (micros / 1000 : ℕ)
  of_seconds : 1000000 ∣ micros → ms = (micros / 1000 : ℕ)
  /-- It is the integer part of the raised seconds. -/
  eq_floor : ∀ e, Spans e micros → ms = ⌊raised e micros⌋
  /-- Up to `2 ^ 33` seconds it is that number, or one less when nothing remains and the whole
  milliseconds fall short. -/
  of_short : micros < 2 ^ 33 * 1000000 →
    ms = if 1000 ∣ micros ∧ FallsShort (micros / 1000) then ((micros / 1000 : ℕ) : ℤ) - 1
      else (micros / 1000 : ℕ)

theorem tells_zero : Tells 0 0 where
  near := by decide
  of_between := by decide
  of_seconds := by decide
  eq_floor := fun _ h => absurd h.pos (Nat.lt_irrefl 0)
  of_short := by decide

/-- Milliseconds tell of every difference under `2 ^ 39` seconds. -/
theorem tells_milliseconds (hmicros : micros < 2 ^ 39 * 1000000) :
    Tells micros (milliseconds micros) := by
  rcases Nat.eq_zero_or_pos micros with rfl | hpos
  · rw [Nat.cast_zero, milliseconds_zero]
    exact tells_zero
  have hmax : ∀ e, Spans e micros → e ≤ 38 := fun e h =>
    Int.lt_add_one_iff.1 (h.exponent_lt hmicros)
  obtain ⟨e, h⟩ := exists_spans hpos
  refine ⟨h.milliseconds_near (hmax e h), h.milliseconds_of_between (hmax e h), ?_,
    fun e h => h.milliseconds_eq_floor (hmax e h), fun hshort => ?_⟩
  · rintro ⟨seconds, rfl⟩
    rw [h.milliseconds_of_seconds (hmax e h)]
    congr 1
    omega
  · have hmax' : e ≤ 32 := Int.lt_add_one_iff.1 (h.exponent_lt hshort)
    by_cases hwhole : 1000 ∣ micros
    · obtain ⟨m, rfl⟩ := hwhole
      have hdiv : 1000 * m / 1000 = m := by omega
      rw [h.milliseconds_of_whole hmax', hdiv]
      simp
    · rw [if_neg fun hboth => hwhole hboth.1]
      exact h.milliseconds_of_rest hmax' hwhole

end BuildGraph.Duration
