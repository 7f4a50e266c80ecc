import BuildGraph.Proofs.Script.Effects
import BuildGraph.Proofs.Script.Locality

/-!
# Statements that are not understood

A statement that no reading understands is passed over, but what a reading found at its beginning
has had its effect by then. `ignored_statement_spec` says what such a statement leaves behind:
nothing, unless it begins with a statement that is understood, or is a block of options that begins
with one, and in the first case just what this beginning does by itself.
-/

namespace BuildGraph.Script

open Recognizer BuildGraph.Number

variable {text : String} {declared : List String} {tokens front : List Token} {b b' : Block}
  {warnings : List BodyWarning} {reading : Recognizer Effect} {readings : List (Recognizer Effect)}
  {effect : Effect} {c rest : Cursor}

section Beginnings

/-- The tokens begin with some that the readings understand. -/
def Begins (readings : List (Recognizer Effect)) (tokens : List Token) : Prop :=
  ∃ front, front <+: tokens ∧ understood front readings = true

/-- The tokens are a block of options, and an option is understood at the beginning of its first
statement. -/
def BeginsOptions (tokens : List Token) : Prop :=
  ∃ body rest first more, optionsBody ⟨tokens, 0⟩ = .found body rest ∧
    split body = .ok (first :: more) ∧ Begins [compilerOption] first

/-- A part of the statement is understood by itself: less than the whole from its beginning on, or
the beginning of a block of options. -/
def HoldsPart (text : String) (declared : List String) (tokens : List Token) : Prop :=
  (∃ front, front <+: tokens ∧ front ≠ tokens ∧
    understood front (statementReadings text declared) = true) ∨ BeginsOptions tokens

theorem understood_singleton_iff : understood tokens [reading] = true ↔
    ∃ effect rest, reading ⟨tokens, 0⟩ = .found effect rest ∧ effect.complete = true ∧
      rest.atEnd = true := by
  rw [understood]
  cases reading ⟨tokens, 0⟩ <;> simp [understood]

/-- What one of the readings understands by itself, the readings understand. -/
theorem Begins.mem (h : Begins [reading] tokens) (hapart : readings.Pairwise Apart)
    (hmem : reading ∈ readings) : Begins readings tokens := by
  obtain ⟨front, hfront, hunderstood⟩ := h
  obtain ⟨effect, rest, hfound, -⟩ := understood_singleton_iff.1 hunderstood
  have hpresent : reading ⟨front, 0⟩ ≠ .absent := by simp [hfound]
  exact ⟨front, hfront, (only_reading hapart hmem hpresent).2.trans hunderstood⟩

/-- What is found at the beginning is understood by itself if its effect is complete then. -/
theorem begins_of_found {S : Effect → Effect → Prop} (hlocal : Local S reading)
    (hfound : reading ⟨tokens, 0⟩ = .found effect rest)
    (hcomplete : ∀ front e pos, reading ⟨front, 0⟩ = .found e ⟨[], pos⟩ → S effect e →
      e.complete = true) : Begins [reading] tokens := by
  obtain ⟨read, hread, hagain⟩ := hlocal _ _ _ hfound
  obtain ⟨e, he, hsame⟩ := hagain [] 0
  rw [List.append_nil] at he
  exact ⟨read, ⟨_, hread.symm⟩,
    understood_singleton_iff.2 ⟨e, _, he, hcomplete _ _ _ he hsame, rfl⟩⟩

theorem begins_of_complete (hlocal : Local Eq reading)
    (hfound : reading ⟨tokens, 0⟩ = .found effect rest) (hcomplete : effect.complete = true) :
    Begins [reading] tokens :=
  begins_of_found hlocal hfound fun _ _ _ _ heq => heq ▸ hcomplete

/-- An option is complete where nothing is left behind it. -/
theorem complete_compilerOption (h : compilerOption c = .found effect rest) :
    effect.complete = rest.atEnd := by
  obtain ⟨property, behind, -, h⟩ := bind_eq_found_iff.1 h
  obtain ⟨change, last, -, h⟩ := bind_eq_found_iff.1 h
  cases h
  rfl

theorem begins_compilerOption (h : compilerOption ⟨tokens, 0⟩ = .found effect rest) :
    Begins [compilerOption] tokens :=
  begins_of_found local_compilerOption h fun _ _ _ hfound _ => complete_compilerOption hfound

theorem begins_singleOption (h : singleOption ⟨tokens, 0⟩ = .found effect rest) :
    Begins [singleOption] tokens := by
  refine begins_of_found local_singleOption h fun front e pos hfound _ => ?_
  obtain ⟨_, behind, -, hfound⟩ := bind_eq_found_iff.1 hfound
  obtain ⟨_, last, -, hfound⟩ := bind_eq_found_iff.1 hfound
  exact complete_compilerOption hfound

theorem complete_methodCall (h : methodCall text c = .found effect rest) :
    effect.complete = true := by
  obtain ⟨relation, args, -, rfl⟩ | hsimple := methodCall_cases h
  · rfl
  · exact hsimple.complete

end Beginnings

section Statements

theorem orElse_eq_found_iff {r r' : Recognizer Effect} (hapart : Apart r r') :
    (r <|> r') c = .found effect rest ↔ r c = .found effect rest ∨ r' c = .found effect rest := by
  change Recognizer.orElse r r' c = _ ↔ _
  rw [Recognizer.orElse]
  rcases hapart c with h | h
  · simp [h]
  · cases r c <;> simp [h]

/-- What is understood as a block of options or as a single one is understood as a statement. -/
theorem Begins.options
    (h : Begins [optionsBody >>= optionsIn] tokens ∨ Begins [singleOption] tokens) :
    Begins [optionsStatement] tokens := by
  have hboth : ∀ reading ∈ [optionsBody >>= optionsIn, singleOption],
      Begins [reading] tokens → Begins [optionsStatement] tokens := by
    rintro reading hmem ⟨front, hfront, hunderstood⟩
    obtain ⟨effect, rest, hfound, hend⟩ := understood_singleton_iff.1 hunderstood
    refine ⟨front, hfront, understood_singleton_iff.2 ⟨effect, rest, ?_, hend⟩⟩
    rw [optionsStatement_eq, orElse_eq_found_iff apart_optionsBody_singleOption]
    simp only [List.mem_cons, List.not_mem_nil, or_false] at hmem
    rcases hmem with rfl | rfl
    · exact .inl hfound
    · exact .inr hfound
  exact h.elim (hboth _ (by simp)) (hboth _ (by simp))

/-- A block of options does nothing if its first statement does not begin with an option. -/
theorem compilerOptions_idle {statements : List (List Token)}
    (hincomplete : (compilerOptions statements).complete = false)
    (hnone : ∀ first more, statements = first :: more → ¬ Begins [compilerOption] first) :
    compilerOptions statements = { apply := id, complete := false } := by
  cases statements with
  | nil => cases hincomplete
  | cons first more =>
      rw [compilerOptions]
      split
      · next effect rest hfound =>
          exact absurd (begins_compilerOption hfound) (hnone first more rfl)
      · rfl

/-- What is found in a statement of which no part is understood does nothing. -/
theorem idle_of_found (hmem : reading ∈ statementReadings text declared)
    (hfound : reading ⟨tokens, 0⟩ = .found effect rest)
    (hbegins : ¬ Begins (statementReadings text declared) tokens)
    (hoptions : ¬ BeginsOptions tokens) : effect = { apply := id, complete := false } := by
  have hapart := apart_statementReadings text declared
  have hnone : ¬ Begins [reading] tokens := fun h => hbegins (h.mem hapart hmem)
  simp only [statementReadings, List.mem_cons, List.not_mem_nil, or_false] at hmem
  rcases hmem with rfl | rfl | rfl | rfl | rfl
  · exact absurd (begins_of_complete local_assignment hfound
      (yields_assignment.found hfound).complete) hnone
  · exact absurd (begins_of_complete local_setterCall hfound
      (yields_setterCall.found hfound).complete) hnone
  · exact absurd (begins_of_complete (local_methodCall text) hfound
      (complete_methodCall hfound)) hnone
  · exact absurd (begins_of_complete (local_guardStatement text declared) hfound
      (yields_guardStatement text declared |>.found hfound).complete) hnone
  · have hread := hfound
    rw [optionsStatement_eq, orElse_eq_found_iff apart_optionsBody_singleOption] at hread
    rcases hread with hblock | hsingle
    · obtain ⟨body, behind, hbody, hstatements⟩ := bind_eq_found_iff.1 hblock
      rw [optionsIn] at hstatements
      split at hstatements
      · next statements hsplit =>
          cases hstatements
          refine compilerOptions_idle ?_ fun first more hfirst hoption =>
            hoptions ⟨body, _, first, more, hbody, hfirst ▸ hsplit, hoption⟩
          -- a block that is understood to its end is a beginning itself
          by_contra hcomplete
          refine hnone (Begins.options (.inl ?_))
          exact begins_of_complete (local_optionsBody.bind local_optionsIn) hblock
            (by simpa using hcomplete)
      · cases hstatements
    · exact absurd (Begins.options (.inr (begins_singleOption hsingle))) hnone

/-- Of a statement that is not understood, and of which no part is, nothing is left. -/
theorem readStatement_idle (hpart : ¬ HoldsPart text declared tokens)
    (hignored : understood tokens (statementReadings text declared) = false)
    (hread : readStatement tokens (statementReadings text declared) b = .ok (b', warnings)) :
    b' = b ∧ warnings = [] := by
  have hbegins : ¬ Begins (statementReadings text declared) tokens := by
    rintro ⟨front, hfront, hunderstood⟩
    refine hpart (.inl ⟨front, hfront, ?_, hunderstood⟩)
    rintro rfl
    rw [hignored] at hunderstood
    cases hunderstood
  by_cases hnone : ∀ reading ∈ statementReadings text declared, reading ⟨tokens, 0⟩ = .absent
  · rw [readStatement_of_absent hnone] at hread
    cases hread
    exact ⟨rfl, rfl⟩
  · push Not at hnone
    obtain ⟨reading, hmem, hpresent⟩ := hnone
    rw [(only_reading (apart_statementReadings text declared) hmem hpresent).1, readStatement]
      at hread
    cases hfound : reading ⟨tokens, 0⟩ with
    | absent => exact absurd hfound hpresent
    | stopped cause =>
        rw [hfound] at hread
        cases cause with
        | integer stop => cases hread
        | unbalanced cause =>
            cases hread
            exact ⟨rfl, rfl⟩
    | found effect rest =>
        obtain rfl := idle_of_found hmem hfound hbegins fun h => hpart (.inr h)
        rw [hfound] at hread
        cases hread
        exact ⟨rfl, rfl⟩

/-- A beginning that is understood does the same whatever stands behind it. -/
theorem readStatement_of_front (hfront : front <+: tokens)
    (hunderstood : understood front (statementReadings text declared) = true) (b : Block) :
    readStatement tokens (statementReadings text declared) b =
      readStatement front (statementReadings text declared) b := by
  have hapart := apart_statementReadings text declared
  obtain ⟨back, rfl⟩ := hfront
  obtain ⟨reading, hmem, hpresent⟩ : ∃ reading ∈ statementReadings text declared,
      reading ⟨front, 0⟩ ≠ .absent := by
    by_contra hnone
    push Not at hnone
    rw [understood_of_absent hnone] at hunderstood
    cases hunderstood
  obtain ⟨hsame, honly⟩ := only_reading hapart hmem hpresent
  obtain ⟨effect, rest, hfound, hcomplete, hend⟩ := understood_singleton_iff.1 (honly ▸ hunderstood)
  obtain ⟨read, hread, hagain⟩ := local_statementReadings text declared reading hmem _ _ _ hfound
  obtain ⟨effect', hfound', happly, hwarnings⟩ := hagain (rest.rest ++ back) 0
  rw [← List.append_assoc, ← hread] at hfound'
  rw [hsame, (only_reading hapart hmem (by simp [hfound'])).1]
  simp only [readStatement, hfound, hfound', hcomplete, hend, happly, hwarnings, Bool.and_self,
    if_true]
  split_ifs
  · rfl
  · simp [Except.map]

/-- What a statement leaves behind that is not understood. -/
theorem ignored_statement_spec
    (hignored : understood tokens (statementReadings text declared) = false)
    (hread : readStatement tokens (statementReadings text declared) b = .ok (b', warnings)) :
    (¬ HoldsPart text declared tokens → b' = b ∧ warnings = []) ∧
      ∀ front, front <+: tokens → understood front (statementReadings text declared) = true →
        readStatement front (statementReadings text declared) b = .ok (b', warnings) :=
  ⟨fun hpart => readStatement_idle hpart hignored hread, fun _ hfront hunderstood =>
    (readStatement_of_front hfront hunderstood b).symm.trans hread⟩

/-- A setting in the action of a task is no setting of the task. -/
theorem ignored_statement_spec_action :
    understood (scan "doLast \x7b group = \"x\" \x7d").tokens (statementReadings "" []) = false ∧
      ¬ HoldsPart "" [] (scan "doLast \x7b group = \"x\" \x7d").tokens ∧
      ∃ b' warnings, readStatement (scan "doLast \x7b group = \"x\" \x7d").tokens
          (statementReadings "" []) { name := "a", kind := .custom, line := 1 } =
            .ok (b', warnings) ∧
        b' = { name := "a", kind := .custom, line := 1 } ∧ warnings = [] := by
  have hignored : understood (scan "doLast \x7b group = \"x\" \x7d").tokens
      (statementReadings "" []) = false := by decide +kernel
  have hread : readStatement (scan "doLast \x7b group = \"x\" \x7d").tokens
      (statementReadings "" []) { name := "a", kind := .custom, line := 1 } =
        .ok ({ name := "a", kind := .custom, line := 1 }, []) := by decide +kernel
  have hpart : ¬ HoldsPart "" [] (scan "doLast \x7b group = \"x\" \x7d").tokens := by
    rintro (⟨front, hfront, -, hunderstood⟩ | ⟨body, rest, first, more, hbody, -⟩)
    · have hall : ∀ front ∈ (scan "doLast \x7b group = \"x\" \x7d").tokens.inits,
          understood front (statementReadings "" []) = false := by decide +kernel
      rw [hall front ((List.mem_inits _ _).2 hfront)] at hunderstood
      cases hunderstood
    · have habsent : optionsBody ⟨(scan "doLast \x7b group = \"x\" \x7d").tokens, 0⟩ =
          .absent := by decide +kernel
      rw [habsent] at hbody
      cases hbody
  exact ⟨hignored, hpart, _, _, hread, (ignored_statement_spec hignored hread).1 hpart⟩

/-- A text that is put together is not understood, and yet its first part becomes the group. -/
theorem ignored_assignment_sets_group :
    Paired (scan "group = \"x\" + \"y\"").tokens ∧
      understood (scan "group = \"x\" + \"y\"").tokens (statementReadings "" []) = false ∧
      readStatement (scan "group = \"x\" + \"y\"").tokens (statementReadings "" [])
          { name := "a", kind := .custom, line := 1 } =
        .ok ({ name := "a", kind := .custom, line := 1, group := some "x" }, []) := by
  decide +kernel

end Statements

end BuildGraph.Script
