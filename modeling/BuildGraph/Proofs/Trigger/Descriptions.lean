import BuildGraph.Proofs.Trigger.Matching

/-!
# What descriptions tell

A schedule is described in one of five manners, and its description tells which: `described`. The
description of a schedule that repeats every so many minutes or hours leaves out on which days it
does, so that descriptions tell the times of schedules but not always their days:
`cron_description_spec`.
-/

namespace BuildGraph

open BuildGraph.Text BuildGraph.Number

/-- The manners in which schedules are described. -/
inductive Manner where
  | preset | minutes | hours | daily | custom
  deriving DecidableEq

/-- A text filled up to two characters. -/
def padded (piece : List Char) : List Char := List.replicate (2 - piece.length) '0' ++ piece

/-- A schedule with stars as its last three pieces and other texts as the first two. -/
structure IsDaily (cron : String) (minute hour : List Char) : Prop where
  minute_ne : minute ≠ ['*']
  hour_ne : hour ≠ ['*']
  toList_eq : cron.toList = minute ++ ' ' :: (hour ++ ' ' :: ['*', ' ', '*', ' ', '*'])

/-- A schedule is described in some manner by a text. -/
inductive Described (cron : String) : Manner → List Char → Prop where
  | preset {p : CronPreset} : p ∈ cronPresets → p.cron = cron →
      Described cron .preset p.description.toList
  | minutes {step days : List Char} :
      cron.toList = ('*' :: '/' :: step) ++ ' ' :: (['*'] ++ ' ' :: days) →
      Described cron .minutes ("Every ".toList ++ step ++ " minutes".toList)
  | hours {step days : List Char} :
      cron.toList = ['0'] ++ ' ' :: (('*' :: '/' :: step) ++ ' ' :: days) →
      Described cron .hours ("Every ".toList ++ step ++ " hours".toList)
  | daily {minute hour : List Char} : IsDaily cron minute hour →
      Described cron .daily ("Daily at ".toList ++ (padded hour ++ ':' :: padded minute))
  | custom : Described cron .custom "Custom schedule".toList

variable {cron cron₁ cron₂ : String} {manner : Manner} {text : List Char}

section Manners

theorem startsWith_iff {s part : String} :
    startsWith s part = true ↔ ∃ rest, s.toList = part.toList ++ rest := by
  rw [startsWith, List.isPrefixOf_iff_prefix]
  exact exists_congr fun rest => eq_comm

theorem toList_drop (n : Nat) (s : String) : (drop n s).toList = s.toList.drop n := by
  rw [drop, String.toList_ofList]

theorem toList_padLeft (s : String) : (padLeft 2 '0' s).toList = padded s.toList := by
  rw [padLeft, String.toList_ofList, padded]

/-- Every schedule is described in one of the manners. -/
theorem described (cron : String) : ∃ manner, Described cron manner (describeCron cron).toList := by
  rw [describeCron]
  split
  · next p hp =>
      have heq := List.find?_some hp
      exact ⟨_, .preset (List.mem_of_find?_eq_some hp) (beq_iff_eq.1 heq)⟩
  · split
    · next minute hour dayOfMonth month dayOfWeek hpieces =>
        have hcron := toList_of_splitAt hpieces
        simp only [List.flatMap_cons, List.flatMap_nil, List.append_nil] at hcron
        split_ifs with hminutes hhours hdaily
        · simp only [Bool.and_eq_true, beq_iff_eq, startsWith_iff] at hminutes
          obtain ⟨⟨step, hstep⟩, rfl⟩ := hminutes
          rw [hstep] at hcron
          rw [String.toList_append, String.toList_append, toList_drop, hstep]
          exact ⟨_, .minutes hcron⟩
        · simp only [Bool.and_eq_true, beq_iff_eq, startsWith_iff] at hhours
          obtain ⟨rfl, step, hstep⟩ := hhours
          rw [hstep] at hcron
          rw [String.toList_append, String.toList_append, toList_drop, hstep]
          exact ⟨_, .hours hcron⟩
        · simp only [Bool.and_eq_true, beq_iff_eq, bne_iff_ne] at hdaily
          obtain ⟨⟨⟨⟨rfl, rfl⟩, rfl⟩, hhour⟩, hminute⟩ := hdaily
          have hstar : ∀ {s : String}, s ≠ "*" → s.toList ≠ ['*'] :=
            fun hne heq => hne (String.toList_injective heq)
          rw [String.toList_append, String.toList_append, String.toList_append, toList_padLeft,
            toList_padLeft, List.append_assoc, List.append_assoc]
          exact ⟨_, .daily ⟨hstar hminute, hstar hhour, hcron⟩⟩
        · exact ⟨_, .custom⟩
    · exact ⟨_, .custom⟩

/-- The manner of a description. -/
def mannerOf (text : List Char) : Manner :=
  match text with
  | 'R' :: _ => .preset
  | 'D' :: _ => .daily
  | 'C' :: _ => .custom
  | _ => if " hours".toList <:+ text then .hours else .minutes

/-- A description tells its manner. -/
theorem Described.manner_eq (h : Described cron manner text) : mannerOf text = manner := by
  cases h with
  | preset hp =>
      have hall : ∀ p ∈ cronPresets, mannerOf p.description.toList = .preset := by decide +kernel
      exact hall _ hp
  | @minutes step _ _ =>
      refine if_neg fun hhours => ?_
      have hminutes := List.suffix_append ("Every ".toList ++ step) " minutes".toList
      have hends := List.suffix_of_suffix_length_le hhours hminutes (by simp)
      revert hends
      decide +kernel
  | @hours step _ _ => exact if_pos (List.suffix_append ("Every ".toList ++ step) " hours".toList)
  | daily => simp [mannerOf]
  | custom => simp [mannerOf]

end Manners

section Padding

variable {piece piece' : List Char} {n : Nat}

theorem padded_eq_self (h : 2 ≤ piece.length) : padded piece = piece := by
  rw [padded, Nat.sub_eq_zero_of_le h, List.replicate_zero, List.nil_append]

theorem length_padded (piece : List Char) : (padded piece).length = max 2 piece.length := by
  rw [padded, List.length_append, List.length_replicate]
  omega

theorem colon_not_mem_padded (h : ':' ∉ piece) : ':' ∉ padded piece := by
  rw [padded, List.mem_append, List.mem_replicate]
  rintro (⟨-, hzero⟩ | hmem)
  · revert hzero
    decide
  · exact h hmem

/-- Texts of two words and more stay as they are when they are filled up. -/
theorem eq_of_padded_eq (hwords : 2 ≤ (wordsFrom [] piece).length)
    (h : padded piece = padded piece') : piece = piece' := by
  have hcount := two_mul_length_wordsFrom_le [] piece
  have hlength := congrArg List.length h
  rw [length_padded, length_padded] at hlength
  rw [List.length_nil] at hcount
  rwa [padded_eq_self (by omega), padded_eq_self (by omega)] at h

theorem length_wordsFrom_eq (h : padded piece = padded piece')
    (hwords : 2 ≤ (wordsFrom [] piece).length ∨ 2 ≤ (wordsFrom [] piece').length) :
    (wordsFrom [] piece).length = (wordsFrom [] piece').length := by
  rcases hwords with hwords | hwords
  · rw [eq_of_padded_eq hwords h]
  · rw [eq_of_padded_eq hwords h.symm]

/-- What the texts of fields select. -/
def selected (part : List Char) (field : CronField) (v : Nat) : Prop := field.Selects part v

/-- A zero in front of a text other than a star does not change what it selects. -/
theorem selected_cons_zero {c : Char} (hstar : c ≠ '*') : selected ['0', c] = selected [c] := by
  funext field v
  refine propext ⟨fun h => ?_, fun h => ?_⟩
  · cases h with
    | number hn => exact .number ((denotes_cons_zero (by simp)).1 hn)
  · cases h with
    | star => exact absurd rfl hstar
    | number hn => exact .number ((denotes_cons_zero (by simp)).2 hn)

/-- Filling up a text other than a star does not change what its words select, if there are
any. -/
theorem selected_padded (hstar : piece ≠ ['*']) (hwords : wordsFrom [] piece ≠ []) :
    (wordsFrom [] (padded piece)).map selected = (wordsFrom [] piece).map selected := by
  match piece with
  | [] => exact absurd rfl hwords
  | [c] =>
      have hc : isBlank c = false := by
        by_contra hblank
        rw [Bool.not_eq_false] at hblank
        have hblanks : ∀ c' ∈ [c], isBlank c' = true := by simpa using hblank
        exact hwords (wordsFrom_blanks hblanks [])
      have hpadded : wordsFrom [] (padded [c]) = [['0', c]] :=
        wordsFrom_eq_singleton (by simp [padded]) (by simpa [padded, hc] using by decide)
      rw [hpadded, wordsFrom_eq_singleton (by simp) (by simpa using hc), List.map_singleton,
        List.map_singleton, selected_cons_zero (by simpa using hstar)]
  | c :: c' :: piece => rw [padded_eq_self (by simp)]

/-- What the words of a text select can be told from the text filled up, and from their number. -/
theorem selected_eq_of_padded_eq (hstar : piece ≠ ['*']) (hstar' : piece' ≠ ['*'])
    (hcount : (wordsFrom [] piece).length = (wordsFrom [] piece').length)
    (h : padded piece = padded piece') :
    (wordsFrom [] piece).map selected = (wordsFrom [] piece').map selected := by
  by_cases hwords : wordsFrom [] piece = []
  · rw [hwords, List.length_nil] at hcount
    rw [hwords, List.eq_nil_of_length_eq_zero hcount.symm]
  · have hwords' : wordsFrom [] piece' ≠ [] := by
      rw [← List.length_pos_iff_ne_nil, ← hcount]
      exact List.length_pos_iff_ne_nil.2 hwords
    rw [← selected_padded hstar hwords, h, selected_padded hstar' hwords']

/-- A text that is a number after it is filled up was one before, unless it was empty. -/
theorem of_denotes_padded (h : Denotes (padded piece) n) :
    wordsFrom [] piece = [] ∨ wordsFrom [] piece = [piece] ∧ Denotes piece n := by
  by_cases hne : piece = []
  · exact .inl (by rw [hne]; rfl)
  have hword : wordsFrom [] piece = [piece] := wordsFrom_eq_singleton hne fun c hc =>
    not_isBlank_of_isDigit (h.isDigit c (List.mem_append_right _ hc))
  refine .inr ⟨hword, ?_⟩
  match piece with
  | [] => exact absurd rfl hne
  | [c] => exact (denotes_cons_zero hne).1 h
  | c :: c' :: piece => rwa [padded_eq_self (by simp)] at h

end Padding

section Times

variable {front₁ front₂ rest₁ rest₂ : List (List Char)} {time : DayTime}

/-- What a schedule says of the time can be told from what its first fields select. -/
theorem matchesTime_congr (h₁ : wordsFrom [] cron₁.toList = front₁ ++ rest₁)
    (h₂ : wordsFrom [] cron₂.toList = front₂ ++ rest₂) (hcount : 2 ≤ front₁.length)
    (hfront : front₁.map selected = front₂.map selected) :
    MatchesTime cron₁ time ↔ MatchesTime cron₂ time := by
  obtain ⟨minute₁, hour₁, others₁, rfl⟩ : ∃ minute hour others,
      front₁ = minute :: hour :: others := by
    match front₁, hcount with
    | minute :: hour :: others, _ => exact ⟨minute, hour, others, rfl⟩
  obtain ⟨minute₂, tail₂, rfl, hminute, htail⟩ := List.map_eq_cons_iff.1 hfront.symm
  obtain ⟨hour₂, others₂, rfl, hhour, -⟩ := List.map_eq_cons_iff.1 htail
  rw [matchesTime_iff (wordsFrom_eq_iff.1 h₁), matchesTime_iff (wordsFrom_eq_iff.1 h₂)]
  exact and_congr (iff_of_eq (congrFun₂ hminute.symm minuteField time.minute))
    (iff_of_eq (congrFun₂ hhour.symm hourField time.hour))

/-- A step is at least one word. -/
theorem wordsFrom_step_ne_nil (step : List Char) : wordsFrom [] ('*' :: '/' :: step) ≠ [] :=
  wordsFrom_ne_nil List.mem_cons_self (by decide)

/-- The words of a text of several pieces. -/
theorem wordsFrom_pieces (first second rest : List Char) :
    wordsFrom [] (first ++ ' ' :: (second ++ ' ' :: rest)) =
      wordsFrom [] first ++ wordsFrom [] second ++ wordsFrom [] rest := by
  rw [wordsFrom_append (by decide), wordsFrom_append (by decide), List.append_assoc]

/-- Two schedules match the same times if they begin with the same two pieces and neither is
blank. -/
theorem matchesTime_of_pieces {first second days₁ days₂ : List Char}
    (hfirst : wordsFrom [] first ≠ []) (hsecond : wordsFrom [] second ≠ [])
    (h₁ : cron₁.toList = first ++ ' ' :: (second ++ ' ' :: days₁))
    (h₂ : cron₂.toList = first ++ ' ' :: (second ++ ' ' :: days₂)) :
    MatchesTime cron₁ time ↔ MatchesTime cron₂ time := by
  have hone := List.length_pos_iff_ne_nil.2 hfirst
  have htwo := List.length_pos_iff_ne_nil.2 hsecond
  refine matchesTime_congr (h₁ ▸ wordsFrom_pieces first second days₁)
    (h₂ ▸ wordsFrom_pieces first second days₂) ?_ rfl
  rw [List.length_append]
  omega

end Times

section Daily

variable {minute hour minute₁ hour₁ minute₂ hour₂ : List Char}

theorem IsDaily.wordsFrom_eq (h : IsDaily cron minute hour) :
    wordsFrom [] cron.toList =
      wordsFrom [] minute ++ wordsFrom [] hour ++ [['*'], ['*'], ['*']] := by
  have hstars : wordsFrom [] ['*', ' ', '*', ' ', '*'] = [['*'], ['*'], ['*']] := by decide +kernel
  rw [h.toList_eq, wordsFrom_pieces, hstars]

/-- The fields of a daily schedule. Its first two pieces have two words in all, but they may have
them both in one piece. -/
theorem IsDaily.exists_fields (h : IsDaily cron minute hour) (hschedule : IsSchedule cron) :
    ∃ minutePart hourPart, wordsFrom [] minute ++ wordsFrom [] hour = [minutePart, hourPart] ∧
      BlankSeparated cron.toList [minutePart, hourPart, ['*'], ['*'], ['*']] ∧
      minuteField.Admits minutePart ∧ hourField.Admits hourPart := by
  obtain ⟨minutePart, hourPart, ofMonth, month, ofWeek, hparts, hminute, hhour, -⟩ :=
    hschedule.exists_fields
  have hfields : wordsFrom [] minute ++ wordsFrom [] hour ++ [['*'], ['*'], ['*']] =
      [minutePart, hourPart] ++ [ofMonth, month, ofWeek] :=
    h.wordsFrom_eq.symm.trans (wordsFrom_eq_iff.2 hparts)
  obtain ⟨hfront, hstars⟩ := List.append_inj' hfields rfl
  cases hstars
  exact ⟨minutePart, hourPart, hfront, hparts, hminute, hhour⟩

/-- The pieces of a daily schedule contain no colon. -/
theorem IsDaily.colon_not_mem (h : IsDaily cron minute hour) (hschedule : IsSchedule cron) :
    ':' ∉ minute ∧ ':' ∉ hour := by
  have hcolon := hschedule.colon_not_mem
  rw [h.toList_eq] at hcolon
  exact ⟨fun hmem => hcolon (by simp [hmem]), fun hmem => hcolon (by simp [hmem])⟩

/-- Daily schedules with one description match the same times. -/
theorem IsDaily.matchesTime_congr (h₁ : IsDaily cron₁ minute₁ hour₁)
    (h₂ : IsDaily cron₂ minute₂ hour₂) (hschedule₁ : IsSchedule cron₁)
    (hschedule₂ : IsSchedule cron₂) (hhour : padded hour₁ = padded hour₂)
    (hminute : padded minute₁ = padded minute₂) {time : DayTime} :
    MatchesTime cron₁ time ↔ MatchesTime cron₂ time := by
  obtain ⟨_, _, hwords₁, -⟩ := h₁.exists_fields hschedule₁
  obtain ⟨_, _, hwords₂, -⟩ := h₂.exists_fields hschedule₂
  have hcount₁ := congrArg List.length hwords₁
  have hcount₂ := congrArg List.length hwords₂
  simp only [List.length_append, List.length_cons, List.length_nil, Nat.zero_add,
    Nat.reduceAdd] at hcount₁ hcount₂
  -- a piece that has both words is the same in the other schedule
  have hminutes := length_wordsFrom_eq hminute
  have hhours := length_wordsFrom_eq hhour
  refine BuildGraph.matchesTime_congr h₁.wordsFrom_eq h₂.wordsFrom_eq ?_ ?_
  · rw [List.length_append]
    omega
  · rw [List.map_append, List.map_append,
      selected_eq_of_padded_eq h₁.minute_ne h₂.minute_ne (by omega) hminute,
      selected_eq_of_padded_eq h₁.hour_ne h₂.hour_ne (by omega) hhour]

/-- Daily schedules match the same days. -/
theorem IsDaily.matchesDay_congr (h₁ : IsDaily cron₁ minute₁ hour₁)
    (h₂ : IsDaily cron₂ minute₂ hour₂) (hschedule₁ : IsSchedule cron₁)
    (hschedule₂ : IsSchedule cron₂) {day : CalendarDay} :
    MatchesDay cron₁ day ↔ MatchesDay cron₂ day := by
  obtain ⟨_, _, -, hparts₁, -⟩ := h₁.exists_fields hschedule₁
  obtain ⟨_, _, -, hparts₂, -⟩ := h₂.exists_fields hschedule₂
  rw [matchesDay_iff hparts₁, matchesDay_iff hparts₂]

/-- A daily schedule matches exactly one minute of every day unless its minute or its hour
repeats. -/
theorem IsDaily.matchesOnce_iff (h : IsDaily cron minute hour) (hschedule : IsSchedule cron)
    {minutePart hourPart : List Char} {rest : List (List Char)}
    (hparts : BlankSeparated cron.toList (minutePart :: hourPart :: rest)) :
    MatchesOnceADay cron ↔ ¬ minuteField.Repeats minutePart ∧ ¬ hourField.Repeats hourPart := by
  obtain ⟨_, _, -, hparts', hminute, hhour⟩ := h.exists_fields hschedule
  cases hparts.unique hparts'
  exact matchesOnceADay_iff hparts hminute hhour

/-- Where both pieces of a daily schedule are numbers, filled up or not, it matches that minute of
every day. -/
theorem IsDaily.matches_iff (h : IsDaily cron minute hour) (hschedule : IsSchedule cron) {m n : Nat}
    (hminute : Denotes (padded minute) m) (hhour : Denotes (padded hour) n) {day : CalendarDay}
    (hday : day.IsValid) {time : DayTime} : Matches cron time day ↔ time = ⟨n, m⟩ := by
  obtain ⟨minutePart, hourPart, hwords, hparts, -⟩ := h.exists_fields hschedule
  have hcount := congrArg List.length hwords
  rcases of_denotes_padded hminute with hnone | ⟨hword, hminute'⟩
  · rcases of_denotes_padded hhour with hnone' | ⟨hword', -⟩
    · simp [hnone, hnone'] at hcount
    · simp [hnone, hword'] at hcount
  · rcases of_denotes_padded hhour with hnone' | ⟨hword', hhour'⟩
    · simp [hword, hnone'] at hcount
    · rw [hword, hword'] at hwords
      cases hwords
      rw [Matches, and_iff_left (matchesDay_stars hparts hday), matchesTime_iff hparts,
        selects_digits_iff hminute', selects_digits_iff hhour', DayTime.ext_iff, and_comm]

end Daily

section Descriptions

/-- Schedules with one description match the same times, and the same days unless the description
is of a manner that tells none. -/
theorem Described.agree {text₁ text₂ : List Char} (h₁ : Described cron₁ manner text₁)
    (h₂ : Described cron₂ manner text₂) (htext : text₁ = text₂) (hschedule₁ : IsSchedule cron₁)
    (hschedule₂ : IsSchedule cron₂) (hcustom : manner ≠ .custom) :
    (∀ time, MatchesTime cron₁ time ↔ MatchesTime cron₂ time) ∧
      ("Every ".toList <+: text₁ ∨ ∀ day, MatchesDay cron₁ day ↔ MatchesDay cron₂ day) := by
  cases h₁ with
  | @preset p₁ hp₁ hcron₁ =>
      cases h₂ with
      | @preset p₂ hp₂ hcron₂ =>
          have hall : ∀ p ∈ cronPresets, ∀ q ∈ cronPresets, p.description = q.description →
              p.cron = q.cron := by decide
          have hcron := hall p₁ hp₁ p₂ hp₂ (String.toList_injective htext)
          rw [hcron₁, hcron₂] at hcron
          subst hcron
          exact ⟨fun _ => Iff.rfl, .inr fun _ => Iff.rfl⟩
  | minutes hcron₁ =>
      cases h₂ with
      | minutes hcron₂ =>
          have hstep := List.append_cancel_left (List.append_cancel_right htext)
          subst hstep
          exact ⟨fun _ => matchesTime_of_pieces (wordsFrom_step_ne_nil _) (by decide) hcron₁ hcron₂,
            .inl (List.append_assoc _ _ _ ▸ List.prefix_append _ _)⟩
  | hours hcron₁ =>
      cases h₂ with
      | hours hcron₂ =>
          have hstep := List.append_cancel_left (List.append_cancel_right htext)
          subst hstep
          exact ⟨fun _ => matchesTime_of_pieces (by decide) (wordsFrom_step_ne_nil _) hcron₁ hcron₂,
            .inl (List.append_assoc _ _ _ ▸ List.prefix_append _ _)⟩
  | daily hdaily₁ =>
      cases h₂ with
      | daily hdaily₂ =>
          obtain ⟨hminute, hhour⟩ := hdaily₁.colon_not_mem hschedule₁
          obtain ⟨heq, -, heq'⟩ := (List.append_cons_inj_of_notMem (colon_not_mem_padded hhour)
            (colon_not_mem_padded hminute)).1 (List.append_cancel_left htext)
          exact ⟨fun _ => hdaily₁.matchesTime_congr hdaily₂ hschedule₁ hschedule₂ heq heq',
            .inr fun _ => hdaily₁.matchesDay_congr hdaily₂ hschedule₁ hschedule₂⟩
  | custom => exact absurd rfl hcustom

/-- What is described as daily is a daily schedule. -/
theorem exists_isDaily {rest : List Char}
    (h : (describeCron cron).toList = "Daily at ".toList ++ rest) :
    ∃ minute hour, IsDaily cron minute hour ∧ rest = padded hour ++ ':' :: padded minute := by
  obtain ⟨manner, hmanner⟩ := described cron
  rw [h] at hmanner
  generalize htext : "Daily at ".toList ++ rest = text at hmanner
  have hdaily : mannerOf text = .daily := by simp [← htext, mannerOf]
  rw [hmanner.manner_eq] at hdaily
  subst hdaily
  cases hmanner with
  | @daily minute hour hdaily =>
      exact ⟨minute, hour, hdaily, List.append_cancel_left htext⟩

/-- Schedules with one description match the same times, and the same days unless the description
begins as one of those that tell none. -/
theorem agree_of_describeCron_eq (hschedule₁ : IsSchedule cron₁) (hschedule₂ : IsSchedule cron₂)
    (hdescription : describeCron cron₁ = describeCron cron₂)
    (hcustom : describeCron cron₁ ≠ "Custom schedule") :
    (∀ time, MatchesTime cron₁ time ↔ MatchesTime cron₂ time) ∧
      (startsWith (describeCron cron₁) "Every " = false →
        ∀ day, MatchesDay cron₁ day ↔ MatchesDay cron₂ day) := by
  obtain ⟨manner₁, h₁⟩ := described cron₁
  obtain ⟨manner₂, h₂⟩ := described cron₂
  have hmanner : manner₂ = manner₁ := by rw [← h₁.manner_eq, ← h₂.manner_eq, hdescription]
  subst hmanner
  have hother : manner₂ ≠ .custom := by
    rintro rfl
    generalize htext : (describeCron cron₁).toList = text at h₁
    cases h₁
    exact hcustom (String.toList_injective htext)
  obtain ⟨htimes, hdays⟩ :=
    h₁.agree h₂ (congrArg String.toList hdescription) hschedule₁ hschedule₂ hother
  refine ⟨htimes, fun hevery => hdays.resolve_left ?_⟩
  rwa [startsWith, Bool.eq_false_iff, ne_eq, List.isPrefixOf_iff_prefix] at hevery

/-- A schedule with the description of another matches the same times, and so it matches the same
minutes of the same days exactly if it matches the same days. It always does unless they are
described as repeating every so many minutes or hours. A schedule that is described as daily matches
exactly one minute of every day unless its minute or its hour repeats, and where the description
names the minute by numbers it is this one. -/
theorem cron_description_spec (cron : String) (hpasses : cronFault? cron = .ok none) :
    (∀ other, cronFault? other = .ok none → describeCron cron = describeCron other →
      describeCron cron ≠ "Custom schedule" →
      (∀ time, MatchesTime cron time ↔ MatchesTime other time) ∧
      ((∀ time day, Matches cron time day ↔ Matches other time day) ↔
        ∀ day, MatchesDay cron day ↔ MatchesDay other day) ∧
      (startsWith (describeCron cron) "Every " = false →
        ∀ time day, Matches cron time day ↔ Matches other time day)) ∧
    ∀ h m, describeCron cron = "Daily at " ++ h ++ ":" ++ m →
      (∀ minute hour rest, BlankSeparated cron.toList (minute :: hour :: rest) →
        (MatchesOnceADay cron ↔ ¬ minuteField.Repeats minute ∧ ¬ hourField.Repeats hour)) ∧
      ∀ hour minute, Denotes h.toList hour → Denotes m.toList minute →
        ∀ day : CalendarDay, day.IsValid →
          ∀ time, Matches cron time day ↔ time = ⟨hour, minute⟩ := by
  have hschedule := isSchedule_of_passes hpasses
  constructor
  · intro other hpasses' hdescription hcustom
    obtain ⟨htimes, hdays⟩ :=
      agree_of_describeCron_eq hschedule (isSchedule_of_passes hpasses') hdescription hcustom
    have hboth : (∀ day, MatchesDay cron day ↔ MatchesDay other day) →
        ∀ time day, Matches cron time day ↔ Matches other time day :=
      fun h time day => and_congr (htimes time) (h day)
    refine ⟨htimes, ⟨fun h day => ?_, hboth⟩, fun hevery => hboth (hdays hevery)⟩
    -- a time that both match leaves the day to decide
    obtain ⟨time, htime⟩ := hschedule.exists_time
    have hday := h time day
    rwa [Matches, Matches, and_iff_right htime, and_iff_right ((htimes time).1 htime)] at hday
  · intro h m hdescription
    have htext :
        (describeCron cron).toList = "Daily at ".toList ++ (h.toList ++ ':' :: m.toList) := by
      simp [hdescription]
    obtain ⟨minutePiece, hourPiece, hdaily, heq⟩ := exists_isDaily htext
    refine ⟨fun minute hour rest => hdaily.matchesOnce_iff hschedule,
      fun hour minute hhour hminute day hday time => ?_⟩
    obtain ⟨hminuteColon, hhourColon⟩ := hdaily.colon_not_mem hschedule
    obtain ⟨hhourEq, -, hminuteEq⟩ := (List.append_cons_inj_of_notMem
      (colon_not_mem_padded hhourColon) (colon_not_mem_padded hminuteColon)).1 heq.symm
    exact hdaily.matches_iff hschedule (hminuteEq ▸ hminute) (hhourEq ▸ hhour) hday

/-- Five past seven is described in one way, whether its numbers are filled up or not. -/
theorem cron_description_spec_seven :
    (∀ time day, Matches "5 7 * * *" time day ↔ Matches "05 07 * * *" time day) ∧
      MatchesOnceADay "5 7 * * *" := by
  have hparts : wordsFrom [] "5 7 * * *".toList = [['5'], ['7'], ['*'], ['*'], ['*']] := by
    decide +kernel
  obtain ⟨hsame, hdaily⟩ := cron_description_spec "5 7 * * *" (by decide +kernel)
  refine ⟨?_, ?_⟩
  · exact (hsame "05 07 * * *" (by decide +kernel) (by decide +kernel) (by decide +kernel)).2.2
      (by decide +kernel)
  · have honce := (hdaily "07" "05" (by decide +kernel)).1 ['5'] ['7'] _ (wordsFrom_eq_iff.1 hparts)
    refine honce.2 ⟨?_, ?_⟩
    · simp [CronField.Repeats]
    · simp [CronField.Repeats]

/-- Schedules of different days are described alike as repeating every five minutes, and one is
described as daily that matches twelve minutes of every day. -/
theorem descriptions_mislead :
    (cronFault? "*/5 * 1 * *" = .ok none ∧ cronFault? "*/5 * 2 * *" = .ok none ∧
      describeCron "*/5 * 1 * *" = "Every 5 minutes" ∧
      describeCron "*/5 * 2 * *" = "Every 5 minutes" ∧
      ∃ time day, Matches "*/5 * 1 * *" time day ∧ ¬ Matches "*/5 * 2 * *" time day) ∧
    cronFault? "*/5 7 * * *" = .ok none ∧ describeCron "*/5 7 * * *" = "Daily at 07:*/5" ∧
      ¬ MatchesOnceADay "*/5 7 * * *" := by
  have hone : Denotes ['1'] 1 := .digit (by decide +kernel)
  have htwo : Denotes ['2'] 2 := .digit (by decide +kernel)
  have hfive : Denotes ['5'] 5 := .digit (by decide +kernel)
  have hseven : Denotes ['7'] 7 := .digit (by decide +kernel)
  have hfirst : BlankSeparated "*/5 * 1 * *".toList
      [['*', '/', '5'], ['*'], ['1'], ['*'], ['*']] := wordsFrom_eq_iff.1 (by decide +kernel)
  have hsecond : BlankSeparated "*/5 * 2 * *".toList
      [['*', '/', '5'], ['*'], ['2'], ['*'], ['*']] := wordsFrom_eq_iff.1 (by decide +kernel)
  have hseventh : BlankSeparated "*/5 7 * * *".toList
      [['*', '/', '5'], ['7'], ['*'], ['*'], ['*']] := wordsFrom_eq_iff.1 (by decide +kernel)
  refine ⟨⟨by decide +kernel, by decide +kernel, by decide +kernel, by decide +kernel,
    ⟨0, 0⟩, ⟨1, 1, 0⟩, ⟨?_, ?_⟩, ?_⟩, by decide +kernel, by decide +kernel, ?_⟩
  · exact (matchesTime_iff hfirst).2
      ⟨(selects_step_iff hfive).2 (by decide), selects_star_iff.2 (by decide)⟩
  · exact (matchesDay_iff hfirst).2 ⟨(selects_digits_iff hone).2 rfl,
      selects_star_iff.2 (by decide), 0, selects_star_iff.2 (by decide), rfl⟩
  · rintro ⟨-, hday⟩
    cases (selects_digits_iff htwo).1 ((matchesDay_iff hsecond).1 hday).1
  · rw [matchesOnceADay_iff hseventh (.step hfive (by decide))
      (.number hseven (by decide) (by decide))]
    exact fun honce => honce.1 (.inr ⟨['5'], 5, rfl, hfive, by decide⟩)

end Descriptions

end BuildGraph
