import BuildGraph.Proofs.Trigger.Grammar

/-!
# What a schedule matches

A field of a schedule selects values of its range, and a schedule matches the times of the days
whose parts its five fields select. `existsUnique_selects_iff` says when a field selects one value
only, and with it `matchesOnceADay_iff` when a schedule matches one minute of every day.
-/

namespace BuildGraph

open BuildGraph.Text BuildGraph.Number

/-- The values that a field selects: all of its range, every so many from its low end on, or
one. -/
inductive CronField.Selects (field : CronField) : List Char → Nat → Prop where
  | star {v : Nat} : field.low ≤ v → v ≤ field.high → field.Selects ['*'] v
  | step {digits : List Char} {n v : Nat} : Denotes digits n → field.low ≤ v → v ≤ field.high →
      (n : Int) ∣ v - field.low → field.Selects ('*' :: '/' :: digits) v
  | number {digits : List Char} {v : Nat} : Denotes digits v → field.Selects digits v

/-- A field holds a star, or a step that stays in its range. -/
def CronField.Repeats (field : CronField) (part : List Char) : Prop :=
  part = ['*'] ∨ ∃ digits n, part = '*' :: '/' :: digits ∧ Denotes digits n ∧
    field.low + n ≤ field.high

/-- A minute of a day. -/
@[ext]
structure DayTime where
  hour : Nat
  minute : Nat

/-- A day as schedules see it. The days of a week are counted from Sunday, which is day zero. -/
structure CalendarDay where
  ofMonth : Nat
  month : Nat
  ofWeek : Nat

/-- The parts of a day are in their ranges. -/
structure CalendarDay.IsValid (day : CalendarDay) : Prop where
  one_le_ofMonth : 1 ≤ day.ofMonth
  ofMonth_le : day.ofMonth ≤ 31
  one_le_month : 1 ≤ day.month
  month_le : day.month ≤ 12
  ofWeek_le : day.ofWeek ≤ 6

/-- The field of the minute. -/
def minuteField : CronField := ⟨0, 59, "minute"⟩

/-- The field of the hour. -/
def hourField : CronField := ⟨0, 23, "hour"⟩

/-- The field of the day of the month. -/
def dayField : CronField := ⟨1, 31, "day of month"⟩

/-- The field of the month. -/
def monthField : CronField := ⟨1, 12, "month"⟩

/-- The field of the day of the week, in which both zero and seven are Sunday. -/
def weekField : CronField := ⟨0, 7, "day of week"⟩

/-- The first two fields of a schedule select the time. -/
def MatchesTime (cron : String) (time : DayTime) : Prop :=
  ∃ minute hour rest, BlankSeparated cron.toList (minute :: hour :: rest) ∧
    minuteField.Selects minute time.minute ∧ hourField.Selects hour time.hour

/-- The last three of the five fields of a schedule select the day. -/
def MatchesDay (cron : String) (day : CalendarDay) : Prop :=
  ∃ minute hour ofMonth month ofWeek,
    BlankSeparated cron.toList [minute, hour, ofMonth, month, ofWeek] ∧
    dayField.Selects ofMonth day.ofMonth ∧ monthField.Selects month day.month ∧
    ∃ v, weekField.Selects ofWeek v ∧ v % 7 = day.ofWeek

/-- A schedule matches a minute of a day when its fields select all parts of it. -/
def Matches (cron : String) (time : DayTime) (day : CalendarDay) : Prop :=
  MatchesTime cron time ∧ MatchesDay cron day

/-- A schedule matches exactly one minute of every day. -/
def MatchesOnceADay (cron : String) : Prop :=
  ∀ day : CalendarDay, day.IsValid → ∃! time, Matches cron time day

variable {field : CronField} {cron : String} {part minute hour ofMonth month ofWeek : List Char}
  {rest : List (List Char)} {time : DayTime} {day : CalendarDay} {n v : Nat}

section Fields

/-- A text of digits selects its number alone. -/
theorem selects_digits_iff (h : Denotes part n) : field.Selects part v ↔ v = n := by
  constructor
  · intro hv
    cases hv with
    | star => exact absurd rfl (head_ne_star h.isDigit [])
    | step => exact absurd rfl (head_ne_star h.isDigit _)
    | number hv => exact hv.unique h
  · rintro rfl
    exact .number h

theorem selects_step_iff {digits : List Char} (h : Denotes digits n) :
    field.Selects ('*' :: '/' :: digits) v ↔
      field.low ≤ v ∧ v ≤ field.high ∧ (n : Int) ∣ v - field.low := by
  constructor
  · intro hv
    cases hv with
    | step hn hlow hhigh hdvd => exact ⟨hlow, hhigh, h.unique hn ▸ hdvd⟩
    | number hv => exact absurd rfl (head_ne_star hv.isDigit _)
  · rintro ⟨hlow, hhigh, hdvd⟩
    exact .step h hlow hhigh hdvd

theorem selects_star_iff : field.Selects ['*'] v ↔ field.low ≤ v ∧ v ≤ field.high := by
  constructor
  · intro hv
    cases hv with
    | star hlow hhigh => exact ⟨hlow, hhigh⟩
    | number hv => exact absurd rfl (head_ne_star hv.isDigit _)
  · rintro ⟨hlow, hhigh⟩
    exact .star hlow hhigh

/-- The range of a field begins at a natural number and holds another one. -/
structure CronField.IsProper (field : CronField) : Prop where
  zero_le_low : 0 ≤ field.low
  low_lt_high : field.low < field.high

theorem isProper_of_mem (h : field ∈ cronFields) : field.IsProper := by
  have hall : ∀ f ∈ cronFields, 0 ≤ f.low ∧ f.low < f.high := by decide
  exact ⟨(hall field h).1, (hall field h).2⟩

/-- A field selects something. -/
theorem exists_selects (hfield : field.IsProper) (h : field.Admits part) :
    ∃ v, field.Selects part v := by
  obtain ⟨low, hlow⟩ := Int.eq_ofNat_of_zero_le hfield.zero_le_low
  have hlt := hfield.low_lt_high
  cases h with
  | star => exact ⟨low, .star hlow.le (by omega)⟩
  | step hn => exact ⟨low, .step hn hlow.le (by omega) (by simp [hlow])⟩
  | number hn => exact ⟨_, .number hn⟩

/-- A field selects one value only, unless it repeats. -/
theorem existsUnique_selects_iff (hfield : field.IsProper) (h : field.Admits part) :
    (∃! v, field.Selects part v) ↔ ¬ field.Repeats part := by
  obtain ⟨low, hlow⟩ := Int.eq_ofNat_of_zero_le hfield.zero_le_low
  have hlt := hfield.low_lt_high
  cases h with
  | star =>
      refine iff_of_false ?_ (not_not_intro (.inl rfl))
      rintro ⟨v, -, hunique⟩
      have hfirst := hunique low (selects_star_iff.2 (by omega))
      have hsecond := hunique (low + 1) (selects_star_iff.2 (by omega))
      omega
  | @step digits n hn hpositive =>
      simp only [selects_step_iff hn]
      have hrepeats : field.Repeats ('*' :: '/' :: digits) ↔ field.low + n ≤ field.high := by
        constructor
        · rintro (hstar | ⟨digits', m, heq, hm, hle⟩)
          · cases hstar
          · cases heq
            rwa [hn.unique hm]
        · exact fun hle => .inr ⟨digits, n, rfl, hn, hle⟩
      rw [hrepeats]
      constructor
      · -- the low end and the first step from it would both be selected
        rintro ⟨v, -, hunique⟩ hle
        have hfirst := hunique low ⟨by omega, by omega, by simp [hlow]⟩
        have hsecond := hunique (low + n) ⟨by omega, by omega, by simp [hlow]⟩
        omega
      · intro hle
        refine ⟨low, ⟨by omega, by omega, by simp [hlow]⟩, ?_⟩
        rintro v ⟨hv, hhigh, hdvd⟩
        have hdistance := Int.eq_zero_of_dvd_of_nonneg_of_lt (by omega) (by omega) hdvd
        omega
  | number hn =>
      simp only [selects_digits_iff hn, existsUnique_eq, true_iff]
      rintro (hstar | ⟨digits, m, heq, -⟩)
      · exact head_ne_star hn.isDigit _ hstar
      · exact head_ne_star hn.isDigit _ heq

end Fields

section Schedules

theorem matchesTime_iff (h : BlankSeparated cron.toList (minute :: hour :: rest)) :
    MatchesTime cron time ↔
      minuteField.Selects minute time.minute ∧ hourField.Selects hour time.hour := by
  constructor
  · rintro ⟨minute', hour', rest', h', hselects⟩
    cases h.unique h'
    exact hselects
  · exact fun hselects => ⟨minute, hour, rest, h, hselects⟩

theorem matchesDay_iff (h : BlankSeparated cron.toList [minute, hour, ofMonth, month, ofWeek]) :
    MatchesDay cron day ↔
      dayField.Selects ofMonth day.ofMonth ∧ monthField.Selects month day.month ∧
        ∃ v, weekField.Selects ofWeek v ∧ v % 7 = day.ofWeek := by
  constructor
  · rintro ⟨minute', hour', ofMonth', month', ofWeek', h', hselects⟩
    cases h.unique h'
    exact hselects
  · exact fun hselects => ⟨minute, hour, ofMonth, month, ofWeek, h, hselects⟩

/-- The five fields of a schedule. -/
theorem IsSchedule.exists_fields (h : IsSchedule cron) :
    ∃ minute hour ofMonth month ofWeek,
      BlankSeparated cron.toList [minute, hour, ofMonth, month, ofWeek] ∧
      minuteField.Admits minute ∧ hourField.Admits hour ∧ dayField.Admits ofMonth ∧
      monthField.Admits month ∧ weekField.Admits ofWeek := by
  obtain ⟨parts, hparts, hall⟩ := h
  have hfields : cronFields = [minuteField, hourField, dayField, monthField, weekField] := rfl
  rw [hfields] at hall
  obtain ⟨minute, _, hminute, hall₁, rfl⟩ := List.forall₂_cons_left_iff.1 hall
  obtain ⟨hour, _, hhour, hall₂, rfl⟩ := List.forall₂_cons_left_iff.1 hall₁
  obtain ⟨ofMonth, _, hofMonth, hall₃, rfl⟩ := List.forall₂_cons_left_iff.1 hall₂
  obtain ⟨month, _, hmonth, hall₄, rfl⟩ := List.forall₂_cons_left_iff.1 hall₃
  obtain ⟨ofWeek, _, hofWeek, hall₅, rfl⟩ := List.forall₂_cons_left_iff.1 hall₄
  obtain rfl := List.forall₂_nil_left_iff.1 hall₅
  exact ⟨minute, hour, ofMonth, month, ofWeek, hparts, hminute, hhour, hofMonth, hmonth, hofWeek⟩

/-- A schedule matches some time. -/
theorem IsSchedule.exists_time (h : IsSchedule cron) : ∃ time, MatchesTime cron time := by
  obtain ⟨minute, hour, ofMonth, month, ofWeek, hparts, hminute, hhour, -⟩ := h.exists_fields
  obtain ⟨m, hm⟩ := exists_selects (isProper_of_mem (by decide)) hminute
  obtain ⟨h, hh⟩ := exists_selects (isProper_of_mem (by decide)) hhour
  exact ⟨⟨h, m⟩, minute, hour, _, hparts, hm, hh⟩

/-- Stars in the last three fields match every day. -/
theorem matchesDay_stars (h : BlankSeparated cron.toList [minute, hour, ['*'], ['*'], ['*']])
    (hday : day.IsValid) : MatchesDay cron day := by
  obtain ⟨hofMonth, hofMonth', hmonth, hmonth', hofWeek⟩ := hday
  have hweek : weekField.Selects ['*'] day.ofWeek := .star (by simp [weekField])
    (by simp only [weekField]; omega)
  exact (matchesDay_iff h).2 ⟨.star (by simpa [dayField]) (by simpa [dayField]),
    .star (by simpa [monthField]) (by simpa [monthField]), day.ofWeek, hweek,
    Nat.mod_eq_of_lt (by omega)⟩

/-- With stars in the last three fields, exactly one minute of every day is matched unless the
minute or the hour repeats. -/
theorem matchesOnceADay_iff (h : BlankSeparated cron.toList [minute, hour, ['*'], ['*'], ['*']])
    (hminute : minuteField.Admits minute) (hhour : hourField.Admits hour) :
    MatchesOnceADay cron ↔ ¬ minuteField.Repeats minute ∧ ¬ hourField.Repeats hour := by
  have hmatches : ∀ day : CalendarDay, day.IsValid → ∀ time, Matches cron time day ↔
      minuteField.Selects minute time.minute ∧ hourField.Selects hour time.hour :=
    fun day hday time =>
      (and_iff_left (matchesDay_stars h hday)).trans (matchesTime_iff h)
  rw [← existsUnique_selects_iff (isProper_of_mem (by decide)) hminute,
    ← existsUnique_selects_iff (isProper_of_mem (by decide)) hhour]
  constructor
  · intro honce
    have hday : CalendarDay.IsValid ⟨1, 1, 0⟩ := ⟨by simp, by simp, by simp, by simp, by simp⟩
    obtain ⟨⟨h, m⟩, hboth, hunique⟩ := honce _ hday
    simp only [hmatches _ hday] at hboth hunique
    refine ⟨⟨m, hboth.1, fun m' hm' => ?_⟩, h, hboth.2, fun h' hh' => ?_⟩
    · exact (DayTime.mk.inj (hunique ⟨h, m'⟩ ⟨hm', hboth.2⟩)).2
    · exact (DayTime.mk.inj (hunique ⟨h', m⟩ ⟨hboth.1, hh'⟩)).1
  · rintro ⟨⟨m, hm, hmunique⟩, h, hh, hhunique⟩ day hday
    refine ⟨⟨h, m⟩, (hmatches day hday _).2 ⟨hm, hh⟩, ?_⟩
    rintro ⟨h', m'⟩ hboth
    obtain ⟨hm', hh'⟩ := (hmatches day hday _).1 hboth
    rw [hmunique m' hm', hhunique h' hh']

end Schedules

end BuildGraph
