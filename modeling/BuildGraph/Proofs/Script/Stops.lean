import BuildGraph.Proofs.Script.Nesting

/-!
# When the reading of a script stops

The reading of a script gives a graph, or it stops at a text of digits that is no integer. Integers
are read in the bodies of registrations only: from numbers, and from the time limits of commands
that run curl. So a stop points to a token of the script: `script_reading_returns`.
-/

namespace BuildGraph.Script

open Recognizer BuildGraph.Number

variable {α β : Type} {T : Token → Prop} {ts tokens args : List Token}

section Causes

/-- A text of digits that is no integer stands among the tokens, in a number or in a string literal
next to the flag of a time limit. -/
structure Unreadable (T : Token → Prop) (stop : IntegerStop) : Prop where
  digits : isDigitText stop.text = true
  refused : requireInteger stop.text = .error stop
  token : (∃ t, T t ∧ t.kind = .number ∧ integerText t.value = stop.text) ∨
    (Literal T stop.text ∧ Literal T "--max-time")

/-- The tokens are of the sort all. -/
def Among (T : Token → Prop) (ts : List Token) : Prop := ∀ t ∈ ts, T t

/-- A stop at an integer is one at an unreadable token. -/
def Explained (T : Token → Prop) (cause : Stop) : Prop :=
  ∀ stop, cause = .integer stop → Unreadable T stop

theorem explained_unbalanced (cause : Unbalanced) : Explained T (.unbalanced cause) := by
  intro stop hstop
  cases hstop

theorem Among.take (h : Among T ts) (n : Nat) : Among T (ts.take n) :=
  fun t ht => h t (List.mem_of_mem_take ht)

theorem Among.drop (h : Among T ts) (n : Nat) : Among T (ts.drop n) :=
  fun t ht => h t (List.mem_of_mem_drop ht)

/-- Readings stay among the tokens of a script. -/
theorem enclosed_among (T : Token → Prop) : Enclosed (Among T) T (Explained T) where
  behind := fun h => (List.forall_mem_cons.1 h).2
  tokens := fun h => h
  group := fun opener _ c hc => by
    have hskip : Among T c.skip.rest := hc.drop _
    rw [Recognizer.group]
    split
    · trivial
    · split_ifs
      · split
        · exact explained_unbalanced _
        · exact ⟨hskip.drop _, (hskip.take _).drop _⟩
      · trivial

/-- What is cut at an operator are the tokens themselves. -/
theorem mem_of_mem_cutFrom {operator : String} {depth : Int} {piece cut : List Token} {t : Token}
    (hcut : cut ∈ cutFrom operator depth piece ts) (ht : t ∈ cut) : t ∈ piece ∨ t ∈ ts := by
  induction ts generalizing depth piece with
  | nil =>
      obtain rfl := List.mem_singleton.1 hcut
      exact .inl (List.mem_reverse.1 ht)
  | cons u ts ih =>
      rw [cutFrom] at hcut
      dsimp only at hcut
      split_ifs at hcut
      · rcases List.mem_cons.1 hcut with rfl | hcut
        · exact .inl (List.mem_reverse.1 ht)
        · exact .inr (List.mem_cons_of_mem _ ((ih hcut).resolve_left List.not_mem_nil))
      · rcases ih hcut with hpiece | hrest
        · rcases List.mem_cons.1 hpiece with rfl | hpiece
          · exact .inr List.mem_cons_self
          · exact .inl hpiece
        · exact .inr (List.mem_cons_of_mem _ hrest)
      · exact (ih hcut).imp_right (List.mem_cons_of_mem _)

/-- The texts of arguments stand in string literals. -/
theorem literal_of_stringArguments? (h : Among T args) {values : List String}
    (hvalues : stringArguments? args = some values) : ∀ value ∈ values, Literal T value := by
  refine (forall_mem_of_mapM (fun piece hpiece value hvalue => ?_) hvalues).2
  have hcut : piece ∈ splitTopLevel "," args := by
    rw [splitArguments] at hpiece
    split_ifs at hpiece
    · exact List.dropLast_subset _ hpiece
    · exact hpiece
  split at hvalue
  · next t =>
      split_ifs at hvalue with hkind
      have hmem := mem_of_mem_cutFrom hcut (List.mem_singleton_self t)
      exact ⟨t, h t (hmem.resolve_left List.not_mem_nil), hkind, Option.some.inj hvalue⟩
  · cases hvalue

end Causes

section Values

/-- A text that is refused explains the stop itself. -/
theorem text_of_requireInteger {text : String} {stop : IntegerStop}
    (h : requireInteger text = .error stop) : stop.text = text := by
  rw [requireInteger] at h
  cases hread : readInteger text with
  | ok n => simp [hread, Except.mapError] at h
  | error fault =>
      rw [hread] at h
      cases h
      rfl

/-- A number is read as an integer, or it explains the stop. -/
theorem ensures_integer : Ensures (Among T) (Explained T) integer fun _ => True := by
  intro c hc
  have hnumber := (enclosed_among T).number (S := Explained T) c hc
  change Admits _ _ _ (andThen number _ c)
  cases hread : number c with
  | absent => simp only [andThen, hread, Admits]
  | stopped cause =>
      rw [hread] at hnumber
      simpa only [andThen, hread, Admits] using hnumber
  | found digits rest =>
      rw [hread] at hnumber
      obtain ⟨hrest, t, ht, hkind, rfl⟩ := hnumber
      simp only [andThen, hread]
      cases hdigits : isDigitText (integerText t.value) with
      | false => simp only [Bool.false_eq_true, if_false, Admits]
      | true =>
          cases hinteger : requireInteger (integerText t.value) with
          | ok n => simpa only [if_true, Admits, and_true] using hrest
          | error cause =>
              simp only [if_true, Admits]
              intro stop hstop
              obtain rfl := Stop.integer.inj hstop
              have hsame := text_of_requireInteger hinteger
              exact {
                digits := by rw [hsame, hdigits]
                refused := by rw [hsame, hinteger]
                token := .inl ⟨t, ht, hkind, hsame.symm⟩ }

theorem ensures_boolean : Ensures (Among T) (Explained T) boolean fun _ => True :=
  Ensures.orElse (((enclosed_among T).ident _).bind fun _ _ => ensures_pure trivial)
    (((enclosed_among T).ident _).bind fun _ _ => ensures_pure trivial)

theorem ensures_fileCall : Ensures (Among T) (Explained T) fileCall fun _ => True :=
  ((enclosed_among T).ident _).bind fun _ _ =>
    ((enclosed_among T).stringIn rfl).weaken fun _ _ => trivial

theorem ensures_directory : Ensures (Among T) (Explained T) directory fun _ => True :=
  Ensures.orElse
    (((enclosed_among T).ident _).bind fun _ _ => ((enclosed_among T).op _).bind fun _ _ =>
      (enclosed_among T).anyIdent.bind fun _ _ => (ensures_require _).bind fun _ _ =>
        ((enclosed_among T).op _).bind fun _ _ => ((enclosed_among T).ident _).bind fun _ _ =>
          ((enclosed_among T).stringIn rfl).weaken fun _ _ => trivial)
    ensures_fileCall

theorem ensures_durationMinutes : Ensures (Among T) (Explained T) durationMinutes fun _ => True :=
  ((enclosed_among T).path _).bind fun _ _ => ((enclosed_among T).group "(" rfl).bind
    fun _ hargs => Ensures.within (ensures_integer.bind fun _ _ =>
      (enclosed_among T).finished.bind fun _ _ => ensures_pure trivial) hargs

end Values

section Effects

/-- The words of the command of a block stand in string literals. -/
def CommandAmong (T : Token → Prop) (b : Block) : Prop :=
  ∀ word ∈ b.settings.commandLine.getD [], Literal T word

/-- An effect adds words to the command that stand in string literals. -/
def Faithful (T : Token → Prop) (effect : Effect) : Prop :=
  ∀ b, CommandAmong T b → CommandAmong T (effect.apply b)

/-- An effect keeps the name of the block and is faithful to its command. -/
structure Tame (T : Token → Prop) (effect : Effect) : Prop where
  name : ∀ b, (effect.apply b).name = b.name
  command : Faithful T effect

/-- An effect that changes neither the name nor the command is tame. -/
theorem tame_of_kept {effect : Effect} (h : ∀ b, (effect.apply b).name = b.name ∧
    (effect.apply b).settings.commandLine = b.settings.commandLine) : Tame T effect where
  name b := (h b).1
  command b hb := by rwa [CommandAmong, (h b).2]

theorem ensures_kept {C : List Token → Prop} {S : Stop → Prop} {effect : Effect}
    (h : ∀ b, (effect.apply b).name = b.name ∧
      (effect.apply b).settings.commandLine = b.settings.commandLine) :
    Ensures C S (pure effect) (Tame T) :=
  ensures_pure (tame_of_kept h)

theorem tame_textProperty? {property : String} {effect : String → Effect}
    (h : textProperty? property = some effect) (value : String) : Tame T (effect value) := by
  unfold textProperty? at h
  split_ifs at h <;> cases h <;> exact tame_of_kept fun _ => ⟨rfl, rfl⟩

theorem tame_booleanProperty? {property : String} {effect : Bool → Effect}
    (h : booleanProperty? property = some effect) (value : Bool) : Tame T (effect value) := by
  unfold booleanProperty? at h
  split_ifs at h <;> cases h <;> exact tame_of_kept fun _ => ⟨rfl, rfl⟩

theorem tame_integerProperty? {property : String} {effect : Int → Effect}
    (h : integerProperty? property = some effect) (value : Int) : Tame T (effect value) := by
  unfold integerProperty? at h
  split_ifs at h <;> cases h <;> exact tame_of_kept fun _ => ⟨rfl, rfl⟩

theorem tame_listCall? {method : String} {effect : List String → Effect}
    (h : listCall? method = some effect) {values : List String}
    (hvalues : ∀ value ∈ values, Literal T value) : Tame T (effect values) := by
  have hcommand : Tame T (setting fun s =>
      { s with commandLine := Settings.extend s.commandLine values }) := by
    refine ⟨fun _ => rfl, fun b hb word hword => ?_⟩
    simp only [setting, changing, Settings.extend, Option.getD_some, List.mem_append] at hword
    exact hword.elim (hb word) (hvalues word)
  unfold listCall? at h
  split_ifs at h <;> cases h <;> first | exact hcommand | exact tame_of_kept fun _ => ⟨rfl, rfl⟩

theorem tame_valueCall? {method : String} {effect : Effect}
    (h : valueCall? method args = some effect) : Tame T effect := by
  unfold valueCall? at h
  split_ifs at h
  · obtain ⟨value, -, rfl⟩ := Option.map_eq_some_iff.1 h
    exact tame_of_kept fun _ => ⟨rfl, rfl⟩
  · obtain ⟨value, -, rfl⟩ := Option.map_eq_some_iff.1 h
    exact tame_of_kept fun _ => ⟨rfl, rfl⟩
  · split at h
    · cases h
      exact tame_of_kept fun _ => ⟨rfl, rfl⟩
    · cases h

end Effects

section Readings

/-- Every reading of a statement has effects that keep the name of a block, and that add words of
the script alone to its command. -/
theorem ensures_propertyValue (property : String) :
    Ensures (Among T) (Explained T) (propertyValue property) (Tame T) := by
  unfold propertyValue
  split_ifs
  · exact ((enclosed_among T).ident _).bind fun _ _ => ((enclosed_among T).op _).bind fun _ _ =>
      (enclosed_among T).anyIdent.bind fun _ _ => (ensures_ofOption _).bind fun _ _ =>
        ensures_kept fun _ => ⟨rfl, rfl⟩
  · exact ensures_directory.bind fun _ _ => ensures_kept fun _ => ⟨rfl, rfl⟩
  · exact ensures_fileCall.bind fun _ _ => ensures_kept fun _ => ⟨rfl, rfl⟩
  · exact ensures_durationMinutes.bind fun _ _ => ensures_kept fun _ => ⟨rfl, rfl⟩
  · split
    · next heffect =>
        exact (enclosed_among T).string.bind fun value _ =>
          ensures_pure (tame_textProperty? heffect value)
    · next heffect =>
        exact ensures_boolean.bind fun value _ =>
          ensures_pure (tame_booleanProperty? heffect value)
    · next heffect =>
        exact ensures_integer.bind fun value _ =>
          ensures_pure (tame_integerProperty? heffect value)
    · exact ensures_absent

theorem ensures_assignment : Ensures (Among T) (Explained T) assignment (Tame T) :=
  (enclosed_among T).anyIdent.bind fun _ _ => ((enclosed_among T).op _).bind fun _ _ =>
    ensures_propertyValue _

theorem ensures_setterCall : Ensures (Among T) (Explained T) setterCall (Tame T) := by
  refine (enclosed_among T).anyIdent.bind fun property _ => ((enclosed_among T).op _).bind
    fun _ _ => ((enclosed_among T).ident _).bind fun _ _ =>
      ((enclosed_among T).group "(" rfl).bind fun args hargs => ?_
  split_ifs
  · exact (Ensures.within (ensures_durationMinutes.bind fun _ _ =>
      (enclosed_among T).finished.bind fun _ _ => ensures_pure trivial) hargs).bind fun _ _ =>
        ensures_kept fun _ => ⟨rfl, rfl⟩
  · exact (ensures_ofOption _).bind fun _ _ => ensures_kept fun _ => ⟨rfl, rfl⟩
  · exact (Ensures.within (ensures_directory.bind fun _ _ =>
      (enclosed_among T).finished.bind fun _ _ => ensures_pure trivial) hargs).bind fun _ _ =>
        ensures_kept fun _ => ⟨rfl, rfl⟩
  · exact ensures_absent

theorem ensures_methodCall (text : String) :
    Ensures (Among T) (Explained T) (methodCall text) (Tame T) := by
  refine (enclosed_among T).anyIdent.bind fun method _ =>
    ((enclosed_among T).group "(" rfl).bind fun args hargs => ?_
  split
  · exact ensures_kept fun _ => ⟨rfl, rfl⟩
  · exact (ensures_ofOption _).bind fun values hvalues => ensures_pure
      (tame_listCall? (by assumption) (literal_of_stringArguments? hargs hvalues))
  · exact (ensures_ofOption _).weaken fun effect heffect => tame_valueCall? heffect

theorem ensures_guardStatement (text : String) (declared : List String) :
    Ensures (Among T) (Explained T) (guardStatement text declared) (Tame T) := by
  refine ((enclosed_among T).ident _).bind fun _ _ =>
    ((enclosed_among T).group "\x7b" rfl).bind fun body _ => (ensures_require _).bind
      fun _ _ => ?_
  split
  · exact ensures_kept fun _ => ⟨rfl, rfl⟩
  · exact ensures_kept fun _ => ⟨rfl, rfl⟩

theorem ensures_compilerOption :
    Ensures (Among T) (Explained T) compilerOption (Tame T) := by
  refine (enclosed_among T).anyIdent.bind fun property _ => Ensures.bind (P := Tame T) ?_
    fun effect heffect c hc => ⟨hc, heffect.name, heffect.command⟩
  split_ifs
  · exact ((enclosed_among T).op _).bind fun _ _ => (enclosed_among T).string.bind fun _ _ =>
      ensures_kept fun _ => ⟨rfl, rfl⟩
  · exact ((enclosed_among T).op _).bind fun _ _ => ensures_boolean.bind fun _ _ =>
      ensures_kept fun _ => ⟨rfl, rfl⟩
  · exact ((enclosed_among T).op _).bind fun _ _ => ensures_boolean.bind fun _ _ =>
      ensures_kept fun _ => ⟨rfl, rfl⟩
  · refine ((enclosed_among T).op _).bind fun _ _ => (enclosed_among T).anyIdent.bind
      fun method _ => ((enclosed_among T).group "(" rfl).bind fun args hargs =>
        Ensures.bind (P := fun _ => True) ?_ fun _ _ => ensures_kept fun _ => ⟨rfl, rfl⟩
    split_ifs
    · exact Ensures.within (((enclosed_among T).ident _).bind fun _ _ =>
        ((enclosed_among T).group "(" rfl).bind fun _ _ => (ensures_ofOption _).bind fun _ _ =>
          (enclosed_among T).finished.bind fun _ _ => ensures_pure trivial) hargs
    · exact (ensures_ofOption _).bind fun _ _ => ensures_pure trivial
    · exact ensures_absent
  · exact ensures_absent

theorem among_of_split {statements : List (List Token)} (h : Among T ts)
    (hsplit : split ts = .ok statements) : ∀ tokens ∈ statements, Among T tokens := by
  intro tokens htokens
  rw [split] at hsplit
  cases hranges : splitFrom 0 0 ts with
  | error cause => simp [hranges, Except.map] at hsplit
  | ok ranges =>
      simp only [hranges, Except.map, Except.ok.injEq] at hsplit
      subst hsplit
      obtain ⟨range, -, rfl⟩ := List.mem_map.1 htokens
      exact (h.take _).drop _

theorem tame_compilerOptions {statements : List (List Token)}
    (h : ∀ tokens ∈ statements, Among T tokens) : Tame T (compilerOptions statements) := by
  induction statements with
  | nil => exact tame_of_kept fun _ => ⟨rfl, rfl⟩
  | cons tokens statements ih =>
      have hfirst := ensures_compilerOption ⟨tokens, 0⟩ (h tokens List.mem_cons_self)
      have hmore := ih fun tokens htokens => h tokens (List.mem_cons_of_mem _ htokens)
      rw [compilerOptions]
      cases hread : compilerOption ⟨tokens, 0⟩ with
      | found effect rest =>
          rw [hread] at hfirst
          dsimp only
          split_ifs
          · exact ⟨fun b => (hmore.name _).trans (hfirst.2.name b),
              fun b hb => hmore.command _ (hfirst.2.command b hb)⟩
          · exact hfirst.2
      | absent => exact tame_of_kept fun _ => ⟨rfl, rfl⟩
      | stopped cause => exact tame_of_kept fun _ => ⟨rfl, rfl⟩

theorem ensures_optionsStatement :
    Ensures (Among T) (Explained T) optionsStatement (Tame T) := by
  refine ((enclosed_among T).ident _).bind fun _ _ => ((enclosed_among T).op _).bind fun _ _ =>
    Ensures.orElse ?_ ensures_compilerOption
  refine ((enclosed_among T).ident _).bind fun _ _ =>
    ((enclosed_among T).group "\x7b" rfl).bind fun body hbody c hc => ?_
  cases hsplit : split body with
  | error cause => exact explained_unbalanced cause
  | ok statements => exact ⟨hc, tame_compilerOptions (among_of_split hbody hsplit)⟩

theorem ensures_statementReadings (text : String) (declared : List String) :
    ∀ reading ∈ statementReadings text declared,
      Ensures (Among T) (Explained T) reading (Tame T) := by
  simp only [statementReadings, List.forall_mem_cons]
  exact ⟨ensures_assignment, ensures_setterCall, ensures_methodCall text,
    ensures_guardStatement text declared, ensures_optionsStatement, List.forall_mem_nil _⟩

end Readings

section Bodies

/-- A result has the property, or the reading stopped at an unreadable token. -/
def Returns (T : Token → Prop) (P : α → Prop) : Except IntegerStop α → Prop
  | .ok a => P a
  | .error stop => Unreadable T stop

theorem Returns.bind {P : α → Prop} {Q : β → Prop} {result : Except IntegerStop α}
    {next : α → Except IntegerStop β} (h : Returns T P result)
    (hnext : ∀ a, P a → Returns T Q (next a)) : Returns T Q (result >>= next) := by
  cases result with
  | ok a => exact hnext a h
  | error stop => exact h

theorem returns_readStatement {readings : List (Recognizer Effect)} {b : Block}
    (hreadings : ∀ reading ∈ readings, Ensures (Among T) (Explained T) reading (Tame T))
    (htokens : Among T tokens) (hb : CommandAmong T b) :
    Returns T (fun r => r.1.name = b.name ∧ CommandAmong T r.1)
      (readStatement tokens readings b) := by
  induction readings generalizing b with
  | nil => exact ⟨rfl, hb⟩
  | cons reading readings ih =>
      rw [List.forall_mem_cons] at hreadings
      have hfirst := hreadings.1 ⟨tokens, 0⟩ htokens
      rw [readStatement]
      cases hread : reading ⟨tokens, 0⟩ with
      | absent => exact ih hreadings.2 hb
      | stopped cause =>
          rw [hread] at hfirst
          cases cause with
          | integer stop => exact hfirst stop rfl
          | unbalanced cause => exact ⟨rfl, hb⟩
      | found effect rest =>
          rw [hread] at hfirst
          have hchanged := hfirst.2.command b hb
          dsimp only
          split_ifs
          · exact ⟨hfirst.2.name b, hchanged⟩
          · have hmore := ih hreadings.2 hchanged
            rw [hfirst.2.name b] at hmore
            revert hmore
            cases readStatement tokens readings (effect.apply b) <;> exact id

theorem returns_readBody (text : String) (declared : List String)
    {statements : List (List Token)} {b : Block} (h : ∀ tokens ∈ statements, Among T tokens)
    (hb : CommandAmong T b) :
    Returns T (fun r => r.1.name = b.name ∧ CommandAmong T r.1)
      (readBody text declared statements b) := by
  induction statements generalizing b with
  | nil => exact ⟨rfl, hb⟩
  | cons tokens statements ih =>
      rw [List.forall_mem_cons] at h
      rw [readBody]
      refine (returns_readStatement (ensures_statementReadings text declared) h.1 hb).bind
        fun first hfirst => (ih h.2 hfirst.2).bind fun more hmore => ?_
      exact ⟨hmore.1.trans hfirst.1, hmore.2⟩

end Bodies

section Requests

theorem eq_of_curlFlag?_maxTime {arg : String}
    (h : HttpConfig.curlFlag? arg = some .maxTime) : arg = "--max-time" := by
  unfold HttpConfig.curlFlag? at h
  split_ifs at h with _ _ _ htime <;> first | exact htime | cases h

/-- The time limit of a command is the only argument that is read as an integer. -/
theorem returns_readCurl {words : List String} (h : ∀ word ∈ words, Literal T word)
    (r : HttpConfig.CurlReading) : Returns T (fun _ => True) (HttpConfig.readCurl r words) := by
  have hbehind : ∀ {word : String} {words : List String},
      (∀ w ∈ word :: words, Literal T w) → ∀ w ∈ words, Literal T w :=
    fun h => (List.forall_mem_cons.1 h).2
  fun_induction HttpConfig.readCurl r words with
  | case11 r arg value rest hflag hdigits stop hrefused =>
      have hsame := text_of_requireInteger hrefused
      obtain rfl := eq_of_curlFlag?_maxTime hflag
      exact {
        digits := by rw [hsame, hdigits]
        refused := by rw [hsame, hrefused]
        token := .inr ⟨by rw [hsame]; exact h value (by simp), h _ List.mem_cons_self⟩ }
  -- a flag takes a value with it, any other argument stands alone
  | case6 _ _ _ _ _ ih | case7 _ _ _ _ _ ih | case8 _ _ _ _ _ ih | case9 _ _ _ _ _ ih =>
      exact ih (hbehind (hbehind h))
  | case10 _ _ _ _ _ _ _ _ ih => exact ih (hbehind (hbehind h))
  | case13 _ _ _ _ _ _ ih | case14 _ _ _ _ _ _ _ ih => exact ih (hbehind h)
  | case1 | case2 | case3 | case4 | case5 | case12 | case15 => trivial

theorem returns_ofCurl? {words : List String} (h : ∀ word ∈ words, Literal T word) :
    Returns T (fun _ => True) (HttpConfig.ofCurl? words) :=
  (returns_readCurl h _).bind fun read _ => by cases read <;> trivial

theorem returns_recoverRequest {b : Block} (hb : CommandAmong T b) :
    Returns T (fun _ => True) (recoverRequest b) := by
  rw [recoverRequest]
  split
  · next args hcommand =>
      split_ifs
      · refine (returns_ofCurl? fun word hword => hb word ?_).bind fun request _ => ?_
        · rw [hcommand]
          exact List.mem_cons_of_mem _ hword
        · cases request <;> trivial
      · trivial
  · trivial

end Requests

section Scripts

variable {f : Findings}

theorem returns_readBlock (text : String) (header : Registration) (line : Nat)
    (hbody : Among T ts) : Returns T (fun _ => True) (readBlock text header ts line f) := by
  rw [readBlock]
  cases hsplit : split ts with
  | error cause => trivial
  | ok statements =>
      have hread := returns_readBody text (f.vars.map Variable.name)
        (b := { name := header.name, kind := kindOfClass header.className, line })
        (among_of_split hbody hsplit) (List.forall_mem_nil _)
      dsimp only
      split
      · next stop hstop => rwa [hstop] at hread
      · next b warnings hfound =>
          rw [hfound] at hread
          have hrequest := returns_recoverRequest hread.2
          split
          · next stop hstop => rwa [hstop] at hrequest
          · trivial

theorem returns_readTopStatement (text : String) (line : Nat) (hts : Among T ts) :
    Returns T (fun _ => True) (readTopStatement text ts line f) := by
  have hheader := (enclosed_among T).registration ⟨ts, 0⟩ hts
  rw [readTopStatement]
  cases hread : registration ⟨ts, 0⟩ with
  | found header rest =>
      rw [hread] at hheader
      have hgroup := (enclosed_among T).group "\x7b" rfl rest hheader.1
      refine returns_readBlock text header line ?_
      cases hbody : Recognizer.group "\x7b" rest with
      | found inner after =>
          rw [hbody] at hgroup
          exact hgroup.2
      | absent => exact List.forall_mem_nil _
      | stopped cause => exact List.forall_mem_nil _
  | absent => trivial
  | stopped cause => trivial

theorem returns_readTokens (text : String) (skip : Nat) (comment : Option String)
    (hts : Among T ts) : Returns T (fun _ => True) (readTokens text skip comment f ts) := by
  induction ts generalizing skip comment f with
  | nil => trivial
  | cons t rest ih =>
      have hrest : Among T rest := (List.forall_mem_cons.1 hts).2
      cases skip with
      | succ more => exact ih more comment hrest
      | zero =>
          rw [readTokens]
          dsimp only
          split_ifs
          · exact ih _ _ hrest
          · exact ih _ _ hrest
          · exact ih _ _ hrest
          · cases statementLength [] none 0 (t :: rest) with
            | error cause => exact ih _ _ hrest
            | ok n =>
                have hstatement := returns_readTopStatement (f := f) text t.line (hts.take n)
                dsimp only
                split
                · exact ih _ _ hrest
                · next stop hstop => rwa [hstop] at hstatement

/-- Whatever the text, its reading stops at no delimiter, and it gives a graph unless a number or
the time limit of a command is a text of digits that is no integer. -/
theorem script_reading_returns (text : String) (ids : IdGenerator) :
    strictScript text ids = (readScript text ids).mapError .integer ∧
      ((∃ r, readScript text ids = .ok r) ∨
        ∃ stop, readScript text ids = .error stop ∧
          Unreadable (· ∈ (scan text).tokens) stop) := by
  refine ⟨strictScript_eq text ids, ?_⟩
  have hread : Returns (· ∈ (scan text).tokens) (fun _ => True) (readScript text ids) :=
    (returns_readTokens text 0 none fun t ht => ht).bind fun found _ => trivial
  cases heq : readScript text ids with
  | ok r => exact .inl ⟨r, rfl⟩
  | error stop =>
      rw [heq] at hread
      exact .inr ⟨stop, rfl, hread⟩

/-- A number that is a digit but no decimal one stops the reading. -/
theorem script_reading_stops_at_superscript :
    readScript "tasks.register<Test>(\"a\") \x7b\n    maxParallelForks = ²\n\x7d\n" {} =
      .error ⟨"²", .malformed⟩ := by
  decide +kernel

end Scripts

end BuildGraph.Script
