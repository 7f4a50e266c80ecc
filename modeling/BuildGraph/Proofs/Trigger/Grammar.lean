import BuildGraph.Proofs.Number.Digits
import BuildGraph.Proofs.Text.Fields
import BuildGraph.Trigger.Cron

/-!
# The grammar of schedules

`IsSchedule` is the grammar of cron notation, and `cronFault?` decides it, field by field, except
that it stops at a text of digits that is no integer. `cron_check_spec` says where it stops, and
that in all other cases it finds exactly the first field that is against the grammar.
-/

namespace BuildGraph

open BuildGraph.Text BuildGraph.Number

/-- What a field of a schedule may hold: a star, a step of at least one, or a number in its
range. -/
inductive CronField.Admits (field : CronField) : List Char → Prop where
  | star : field.Admits ['*']
  | step {digits : List Char} {n : Nat} :
      Denotes digits n → 1 ≤ n → field.Admits ('*' :: '/' :: digits)
  | number {digits : List Char} {n : Nat} :
      Denotes digits n → field.low ≤ n → n ≤ field.high → field.Admits digits

/-- Five fields between blanks, each of which may hold its text. -/
def IsSchedule (cron : String) : Prop :=
  ∃ parts, BlankSeparated cron.toList parts ∧ List.Forall₂ CronField.Admits cronFields parts

/-- A field, or its step, is a text of digits that is refused. -/
def HaltsAt (part : List Char) (stop : IntegerStop) : Prop :=
  ∃ digits, IsRefused digits ∧ requireInteger (.ofList digits) = .error stop ∧
    (part = digits ∨ part = '*' :: '/' :: digits)

/-- The first field of a schedule with a property, and its text. -/
def FirstField (p : CronField → List Char → Prop) (cron : String) (field : CronField)
    (part : List Char) : Prop :=
  ∃ parts before after, BlankSeparated cron.toList parts ∧ parts.length = cronFields.length ∧
    cronFields.zip parts = before ++ (field, part) :: after ∧
    (∀ q ∈ before, ¬ p q.1 q.2) ∧ p field part

/-- How a field is reported whose text is against the grammar. -/
def CronField.faultFor (field : CronField) (part : List Char) : CronFault :=
  if ['*', '/'] <+: part then .step field
  else if isDigitText (.ofList part) then .range field
  else .malformed field

variable {field : CronField} {part digits : List Char} {stop : IntegerStop} {n : Nat}

section Shapes

/-- A text of digits neither is nor starts with a star. -/
theorem head_ne_star (h : ∀ c ∈ digits, isDigit c = true) (rest : List Char) :
    digits ≠ '*' :: rest := by
  rintro rfl
  have hstar := h '*' List.mem_cons_self
  revert hstar
  decide

/-- A step is checked by its digits. -/
theorem fault?_step (field : CronField) (step : List Char) :
    field.fault? (.ofList ('*' :: '/' :: step)) =
      if isDigitText (.ofList step) then
        (requireInteger (.ofList step)).map fun n => if n < 1 then some (.step field) else none
      else .ok (some (.step field)) := by
  have hstar : String.ofList ('*' :: '/' :: step) ≠ "*" := fun h => by
    have := congrArg String.toList h
    simp at this
  have hstep : startsWith (.ofList ('*' :: '/' :: step)) "*/" = true := by simp [startsWith]
  rw [CronField.fault?, if_neg hstar, if_pos hstep]
  simp only [drop, String.toList_ofList, List.drop_succ_cons, List.drop_zero]

/-- A text of digits is checked by its number. -/
theorem fault?_digits (field : CronField) (h : isDigitText (.ofList digits) = true) :
    field.fault? (.ofList digits) = (requireInteger (.ofList digits)).map fun n =>
      if n < field.low || field.high < n then some (.range field) else none := by
  have hne := head_ne_star (isDigitText_ofList.1 h).2
  have hstar : String.ofList digits ≠ "*" := fun heq => hne [] (by
    rw [← String.toList_ofList (l := digits), heq]
    rfl)
  have hstep : startsWith (.ofList digits) "*/" = false := by
    rw [startsWith, Bool.eq_false_iff, ne_eq, List.isPrefixOf_iff_prefix, String.toList_ofList,
      String.toList_ofList]
    rintro ⟨rest, hrest⟩
    exact hne ('/' :: rest) hrest.symm
  rw [CronField.fault?, if_neg hstar, hstep, if_neg Bool.false_ne_true, if_pos h]

/-- Any other text but a star is malformed. -/
theorem fault?_other (field : CronField) (hstar : part ≠ ['*']) (hstep : ¬ ['*', '/'] <+: part)
    (hdigits : isDigitText (.ofList part) = false) :
    field.fault? (.ofList part) = .ok (some (.malformed field)) := by
  have hne : String.ofList part ≠ "*" := fun heq => hstar (by
    rw [← String.toList_ofList (l := part), heq]
    rfl)
  have hstart : startsWith (.ofList part) "*/" = false := by
    rw [startsWith, Bool.eq_false_iff, ne_eq, List.isPrefixOf_iff_prefix, String.toList_ofList,
      String.toList_ofList]
    exact hstep
  rw [CronField.fault?, if_neg hne, hstart, if_neg Bool.false_ne_true, hdigits,
    if_neg Bool.false_ne_true]

/-- No field holds a colon. -/
theorem CronField.Admits.colon_not_mem (h : field.Admits part) : ':' ∉ part := by
  have hdigits : ∀ {digits : List Char} {n : Nat}, Denotes digits n → ':' ∉ digits := by
    intro digits n hn hmem
    have hcolon := hn.isDigit ':' hmem
    revert hcolon
    decide
  cases h with
  | star => decide
  | step hn => simpa using hdigits hn
  | number hn => exact hdigits hn

end Shapes

section Fields

/-- The check of a field stops at a text of digits that is refused. -/
theorem fault?_of_haltsAt (h : HaltsAt part stop) : field.fault? (.ofList part) = .error stop := by
  obtain ⟨digits, hrefused, hstop, rfl | rfl⟩ := h
  · rw [fault?_digits field hrefused.isDigitText, hstop]
    rfl
  · rw [fault?_step, if_pos hrefused.isDigitText, hstop]
    rfl

/-- Apart from that a field passes when it may hold its text. -/
theorem fault?_of_admits (h : field.Admits part) (hread : ∀ stop, ¬ HaltsAt part stop) :
    field.fault? (.ofList part) = .ok none := by
  cases h with
  | star => rfl
  | @step digits n hn hpositive =>
      rw [fault?_step, if_pos hn.isDigitText]
      rcases requireInteger_cases hn.isDigitText with ⟨m, hm, hvalue⟩ | ⟨stop, hrefused, hstop⟩
      · obtain rfl := hn.unique hm
        rw [hvalue, Except.map, if_neg (by omega)]
      · exact absurd ⟨digits, hrefused, hstop, .inr rfl⟩ (hread stop)
  | @number _ n hn hlow hhigh =>
      rw [fault?_digits field hn.isDigitText]
      rcases requireInteger_cases hn.isDigitText with ⟨m, hm, hvalue⟩ | ⟨stop, hrefused, hstop⟩
      · obtain rfl := hn.unique hm
        have hin : ¬ (n < field.low || field.high < n) = true := by
          simpa using ⟨hlow, hhigh⟩
        rw [hvalue, Except.map, if_neg hin]
      · exact absurd ⟨part, hrefused, hstop, .inl rfl⟩ (hread stop)

/-- Apart from that a text against the grammar is a fault. -/
theorem fault?_of_not_admits (h : ¬ field.Admits part) (hread : ∀ stop, ¬ HaltsAt part stop) :
    field.fault? (.ofList part) = .ok (some (field.faultFor part)) := by
  by_cases hstep : ['*', '/'] <+: part
  · obtain ⟨digits, rfl⟩ := hstep
    rw [CronField.faultFor, if_pos (List.prefix_append _ _)]
    change field.fault? (.ofList ('*' :: '/' :: digits)) = _
    rw [fault?_step]
    split
    · next hdigits =>
        rcases requireInteger_cases hdigits with ⟨n, hn, hvalue⟩ | ⟨stop, hrefused, hstop⟩
        · have hzero : n < 1 := by
            by_contra hpositive
            exact h (.step hn (by omega))
          rw [hvalue, Except.map, if_pos (by omega)]
        · exact absurd ⟨digits, hrefused, hstop, .inr rfl⟩ (hread stop)
    · rfl
  · rw [CronField.faultFor, if_neg hstep]
    by_cases hdigits : isDigitText (.ofList part) = true
    · rw [if_pos hdigits, fault?_digits field hdigits]
      rcases requireInteger_cases hdigits with ⟨n, hn, hvalue⟩ | ⟨stop, hrefused, hstop⟩
      · have hrange : (n < field.low || field.high < n) = true := by
          by_contra hin
          simp only [Bool.or_eq_true, decide_eq_true_eq, not_or, not_lt] at hin
          exact h (.number hn hin.1 hin.2)
        rw [hvalue, Except.map, if_pos hrange]
      · exact absurd ⟨part, hrefused, hstop, .inl rfl⟩ (hread stop)
    · rw [if_neg hdigits]
      exact fault?_other field (fun hstar => h (hstar ▸ .star)) hstep (Bool.eq_false_iff.2 hdigits)

/-- The check of a field stops, or the field passes, or its text is against the grammar. -/
theorem fault?_cases (field : CronField) (part : List Char) :
    (∃ stop, HaltsAt part stop ∧ field.fault? (.ofList part) = .error stop) ∨
    ((∀ stop, ¬ HaltsAt part stop) ∧ field.Admits part ∧ field.fault? (.ofList part) = .ok none) ∨
    ((∀ stop, ¬ HaltsAt part stop) ∧ ¬ field.Admits part ∧
      field.fault? (.ofList part) = .ok (some (field.faultFor part))) := by
  by_cases hstop : ∃ stop, HaltsAt part stop
  · obtain ⟨stop, hstop⟩ := hstop
    exact .inl ⟨stop, hstop, fault?_of_haltsAt hstop⟩
  · have hread := not_exists.1 hstop
    by_cases hadmits : field.Admits part
    · exact .inr (.inl ⟨hread, hadmits, fault?_of_admits hadmits hread⟩)
    · exact .inr (.inr ⟨hread, hadmits, fault?_of_not_admits hadmits hread⟩)

theorem fault?_eq_error_iff : field.fault? (.ofList part) = .error stop ↔ HaltsAt part stop := by
  refine ⟨fun h => ?_, fault?_of_haltsAt⟩
  rcases fault?_cases field part with ⟨stop', hstop, heq⟩ | ⟨-, -, heq⟩ | ⟨-, -, heq⟩
  · rw [heq] at h
    exact Except.error.inj h ▸ hstop
  · rw [heq] at h
    cases h
  · rw [heq] at h
    cases h

theorem fault?_eq_none_iff :
    field.fault? (.ofList part) = .ok none ↔
      field.Admits part ∧ ∀ stop, ¬ HaltsAt part stop := by
  refine ⟨fun h => ?_, fun h => fault?_of_admits h.1 h.2⟩
  rcases fault?_cases field part with ⟨stop, -, heq⟩ | ⟨hread, hadmits, -⟩ | ⟨-, -, heq⟩
  · rw [heq] at h
    cases h
  · exact ⟨hadmits, hread⟩
  · rw [heq] at h
    cases h

theorem fault?_eq_some_iff {fault : CronFault} :
    field.fault? (.ofList part) = .ok (some fault) ↔
      ¬ field.Admits part ∧ (∀ stop, ¬ HaltsAt part stop) ∧ fault = field.faultFor part := by
  constructor
  · intro h
    rcases fault?_cases field part with ⟨stop, -, heq⟩ | ⟨-, -, heq⟩ | ⟨hread, hadmits, heq⟩
    · rw [heq] at h
      cases h
    · rw [heq] at h
      cases h
    · rw [heq] at h
      exact ⟨hadmits, hread, (Option.some.inj (Except.ok.inj h)).symm⟩
  · rintro ⟨hadmits, hread, rfl⟩
    exact fault?_of_not_admits hadmits hread

/-- The words for a fault of a field name the field. -/
theorem name_infix_message (field : CronField) (part : List Char) :
    field.name.toList <:+: (field.faultFor part).message.toList := by
  have hlast : ∀ words : String, field.name.toList <:+: (words ++ field.name).toList := by
    intro words
    rw [String.toList_append]
    exact (List.suffix_append _ _).isInfix
  have hstep : (CronFault.step field).message = "Invalid step value for " ++ field.name := rfl
  have hrange : (CronFault.range field).message = field.name ++ " must be between " ++
    toString field.low ++ " and " ++ toString field.high := rfl
  have hmalformed : (CronFault.malformed field).message = "Invalid value for " ++ field.name := rfl
  rw [CronField.faultFor]
  split_ifs
  · exact hstep ▸ hlast _
  · rw [hrange, String.append_assoc, String.append_assoc, String.append_assoc, String.toList_append]
    exact (List.prefix_append _ _).isInfix
  · exact hmalformed ▸ hlast _

end Fields

section Schedules

variable {cron : String} {parts : List (List Char)} {fields : List (CronField × List Char)}

/-- The check of one field after another with its text. -/
def checkInTurn (fields : List (CronField × List Char)) : Except IntegerStop (Option CronFault) :=
  firstCronFault (fields.map fun q => (q.1, .ofList q.2))

/-- All fields pass. -/
theorem checkInTurn_eq_none_iff :
    checkInTurn fields = .ok none ↔ ∀ q ∈ fields, q.1.fault? (.ofList q.2) = .ok none := by
  induction fields with
  | nil => simp [checkInTurn, firstCronFault]
  | cons q fields ih =>
      rw [checkInTurn] at ih ⊢
      rw [List.map_cons, firstCronFault, List.forall_mem_cons, ← ih]
      split
      · next heq => rw [and_iff_right heq]
      · next hne => exact iff_of_false hne fun h => hne h.1

/-- Any other result is that of the first field that does not pass. -/
theorem checkInTurn_eq_iff {result : Except IntegerStop (Option CronFault)}
    (hresult : result ≠ .ok none) :
    checkInTurn fields = result ↔
      ∃ before field part after, fields = before ++ (field, part) :: after ∧
        (∀ q ∈ before, q.1.fault? (.ofList q.2) = .ok none) ∧
        field.fault? (.ofList part) = result := by
  induction fields with
  | nil => simp [checkInTurn, firstCronFault, hresult.symm]
  | cons q fields ih =>
      rw [checkInTurn] at ih ⊢
      rw [List.map_cons, firstCronFault]
      split
      · next hpass =>
          rw [ih]
          constructor
          · rintro ⟨before, field, part, after, rfl, hbefore, hfield⟩
            exact ⟨q :: before, field, part, after, rfl, List.forall_mem_cons.2 ⟨hpass, hbefore⟩,
              hfield⟩
          · rintro ⟨before, field, part, after, heq, hbefore, hfield⟩
            cases before with
            | nil =>
                obtain ⟨rfl, rfl⟩ := List.cons.inj heq
                exact absurd (hfield.symm.trans hpass) hresult
            | cons q' before =>
                obtain ⟨rfl, rfl⟩ := List.cons.inj heq
                exact ⟨before, field, part, after, rfl, (List.forall_mem_cons.1 hbefore).2, hfield⟩
      · next hother =>
          constructor
          · exact fun h => ⟨[], q.1, q.2, fields, rfl, List.forall_mem_nil _, h⟩
          · rintro ⟨before, field, part, after, heq, hbefore, hfield⟩
            cases before with
            | nil =>
                obtain ⟨rfl, rfl⟩ := List.cons.inj heq
                exact hfield
            | cons q' before =>
                obtain ⟨rfl, rfl⟩ := List.cons.inj heq
                exact absurd (List.forall_mem_cons.1 hbefore).1 hother

/-- The fields of a schedule are counted and then checked in turn. -/
theorem cronFault?_eq (h : BlankSeparated cron.toList parts) :
    cronFault? cron = if parts.length = cronFields.length then checkInTurn (cronFields.zip parts)
      else .ok (some .fieldCount) := by
  have hwords : words cron = parts.map String.ofList := by rw [words, wordsFrom_eq_iff.2 h]
  rw [cronFault?, hwords, List.length_map, checkInTurn, List.zip_map_right]
  rfl

/-- A text is a schedule when all of its fields may hold what they do. -/
theorem isSchedule_iff (h : BlankSeparated cron.toList parts) :
    IsSchedule cron ↔ parts.length = cronFields.length ∧
      ∀ q ∈ cronFields.zip parts, q.1.Admits q.2 := by
  constructor
  · rintro ⟨parts', hparts', hall⟩
    obtain rfl := h.unique hparts'
    obtain ⟨hcount, hall⟩ := List.forall₂_iff_zip.1 hall
    exact ⟨hcount.symm, fun q hq => hall hq⟩
  · rintro ⟨hcount, hall⟩
    exact ⟨parts, h, List.forall₂_iff_zip.2 ⟨hcount.symm, fun hq => hall _ hq⟩⟩

/-- No schedule contains a colon. -/
theorem IsSchedule.colon_not_mem (h : IsSchedule cron) : ':' ∉ cron.toList := by
  obtain ⟨parts, hparts, hall⟩ := h
  intro hmem
  rcases hparts.isBlank_or_mem hmem with hblank | ⟨part, hpart, hmem⟩
  · revert hblank
    decide
  · obtain ⟨i, hi, rfl⟩ := List.getElem_of_mem hpart
    have hadmits := (List.forall₂_iff_get.1 hall).2 i (hall.length_eq ▸ hi) hi
    exact hadmits.colon_not_mem hmem

/-- The check stops at the first field that does not pass, where this is a text of digits that is
refused. -/
theorem cronFault?_eq_error_iff (h : BlankSeparated cron.toList parts) :
    cronFault? cron = .error stop ↔
      ∃ field part, FirstField (fun field part => ¬ field.Admits part ∨ ∃ stop, HaltsAt part stop)
        cron field part ∧ HaltsAt part stop := by
  rw [cronFault?_eq h]
  split
  · next hcount =>
      rw [checkInTurn_eq_iff (by simp)]
      simp only [fault?_eq_error_iff, fault?_eq_none_iff]
      constructor
      · rintro ⟨before, field, part, after, hfields, hbefore, hhalt⟩
        refine ⟨field, part, ⟨parts, before, after, h, hcount, hfields, fun q hq => ?_,
          .inr ⟨stop, hhalt⟩⟩, hhalt⟩
        simpa using hbefore q hq
      · rintro ⟨field, part, ⟨parts', before, after, hparts', -, hfields, hbefore, -⟩, hhalt⟩
        obtain rfl := h.unique hparts'
        refine ⟨before, field, part, after, hfields, fun q hq => ?_, hhalt⟩
        simpa using hbefore q hq
  · next hcount =>
      refine iff_of_false (by simp) ?_
      rintro ⟨field, part, ⟨parts', before, after, hparts', hcount', -⟩, -⟩
      exact hcount (h.unique hparts' ▸ hcount')

/-- A fault is that of the count, or that of the first field against the grammar. -/
theorem of_cronFault?_eq_some (h : BlankSeparated cron.toList parts) {fault : CronFault}
    (hfault : cronFault? cron = .ok (some fault)) :
    (fault = .fieldCount ∧ parts.length ≠ cronFields.length) ∨
      ∃ field part, FirstField (fun field part => ¬ field.Admits part) cron field part ∧
        fault = field.faultFor part := by
  rw [cronFault?_eq h] at hfault
  split at hfault
  · next hcount =>
      obtain ⟨before, field, part, after, hfields, hbefore, hfield⟩ :=
        (checkInTurn_eq_iff (by simp)).1 hfault
      obtain ⟨hadmits, -, rfl⟩ := fault?_eq_some_iff.1 hfield
      exact .inr ⟨field, part, ⟨parts, before, after, h, hcount, hfields,
        fun q hq => not_not_intro (fault?_eq_none_iff.1 (hbefore q hq)).1, hadmits⟩, rfl⟩
  · next hcount => exact .inl ⟨(Option.some.inj (Except.ok.inj hfault)).symm, hcount⟩

/-- Only schedules in the grammar pass. -/
theorem isSchedule_of_passes (h : cronFault? cron = .ok none) : IsSchedule cron := by
  have hparts := blankSeparated_words cron
  rw [cronFault?_eq hparts] at h
  split at h
  · next hcount =>
      refine (isSchedule_iff hparts).2 ⟨hcount, fun q hq => ?_⟩
      exact (fault?_eq_none_iff.1 (checkInTurn_eq_none_iff.1 h q hq)).1
  · cases h

/-- The check of a schedule stops exactly at a text of digits that is refused, when all fields
before it pass. Otherwise it has a result: none exactly for schedules in the grammar, and for any
other text a fault that names the first field against the grammar, where there are five fields at
all. -/
theorem cron_check_spec (cron : String) :
    (∀ stop, cronFault? cron = .error stop ↔
      ∃ field part, FirstField (fun field part => ¬ field.Admits part ∨ ∃ stop, HaltsAt part stop)
        cron field part ∧ HaltsAt part stop) ∧
    ∀ result, cronFault? cron = .ok result →
      (result = none ↔ IsSchedule cron) ∧
      ∀ fault, result = some fault →
        (fault = .fieldCount ∧ ∀ parts, BlankSeparated cron.toList parts → parts.length ≠ 5) ∨
        ∃ field part, FirstField (fun field part => ¬ field.Admits part) cron field part ∧
          fault = field.faultFor part ∧ field.name.toList <:+: fault.message.toList := by
  have hparts := blankSeparated_words cron
  refine ⟨fun stop => cronFault?_eq_error_iff hparts, fun result hresult => ⟨⟨?_, ?_⟩, ?_⟩⟩
  · rintro rfl
    exact isSchedule_of_passes hresult
  · intro hschedule
    obtain ⟨hcount, hall⟩ := (isSchedule_iff hparts).1 hschedule
    cases result with
    | none => rfl
    | some fault =>
        rcases of_cronFault?_eq_some hparts hresult with ⟨-, hother⟩ |
          ⟨field, part, ⟨parts', before, after, hparts', -, hfields, -, hadmits⟩, -⟩
        · exact absurd hcount hother
        · obtain rfl := hparts.unique hparts'
          exact absurd (hall (field, part) (by simp [hfields])) hadmits
  · rintro fault rfl
    rcases of_cronFault?_eq_some hparts hresult with ⟨rfl, hcount⟩ | ⟨field, part, hfirst, rfl⟩
    · exact .inl ⟨rfl, fun parts' hparts' => hparts.unique hparts' ▸ hcount⟩
    · exact .inr ⟨field, part, hfirst, rfl, name_infix_message field part⟩

/-- An hour out of range is the fault of a schedule whose third field would stop the check. -/
theorem cron_check_spec_hour :
    cronFault? "0 24 \u00b2 * *" = .ok (some (.range ⟨0, 23, "hour"⟩)) ∧
      ¬ IsSchedule "0 24 \u00b2 * *" := by
  have hfault : cronFault? "0 24 \u00b2 * *" = .ok (some (.range ⟨0, 23, "hour"⟩)) := by
    decide +kernel
  refine ⟨hfault, fun h => ?_⟩
  cases ((cron_check_spec _).2 _ hfault).1.2 h

/-- A superscript digit in a field is no decimal digit, but the check does not report the field: it
stops. -/
theorem check_stops_at_superscript :
    cronFault? "\u00b2 * * * *" = .error ⟨"\u00b2", .malformed⟩ ∧
      ¬ IsSchedule "\u00b2 * * * *" := by
  have hwords :
      wordsFrom [] "\u00b2 * * * *".toList = [['\u00b2'], ['*'], ['*'], ['*'], ['*']] := by
    decide +kernel
  refine ⟨by decide +kernel, fun h => ?_⟩
  have hall := ((isSchedule_iff (wordsFrom_eq_iff.1 hwords)).1 h).2
  have hminute := hall (⟨0, 59, "minute"⟩, ['\u00b2']) (by simp [cronFields])
  cases hminute with
  | number hn =>
      have hdecimal := (denotes_iff.1 hn).2.1 '\u00b2' List.mem_cons_self
      revert hdecimal
      decide

end Schedules

end BuildGraph
