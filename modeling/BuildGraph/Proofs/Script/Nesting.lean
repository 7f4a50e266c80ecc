import BuildGraph.Proofs.Script.Ensured
import BuildGraph.Script.Read

/-!
# Delimiters inside statements

The delimiters of a statement pair up, so the closing delimiter of every group in it is found: no
reading of a statement stops at its delimiters. `strictScript` is the reading of a script that does
not overlook such a stop, and `strictScript_eq` says that it reads scripts as `readScript` does.
-/

namespace BuildGraph.Script

open Recognizer

variable {t : Token} {ts rest opened : List Token} {C : List Token → Prop} {T : Token → Prop}
  {S : Stop → Prop}

section Stacks

/-- The delimiters that are open behind some tokens, the last one first, if each closing one fits
the last that is open. -/
def openAfter (opened : List Token) : List Token → Option (List Token)
  | [] => some opened
  | t :: rest =>
    if t.closer?.isSome then openAfter (t :: opened) rest
    else if t.isCloser then
      match opened with
      | [] => none
      | o :: more => if o.closer? = some t.value then openAfter more rest else none
    else openAfter opened rest

theorem openAfter_cons (opened : List Token) (t : Token) (rest : List Token) :
    openAfter opened (t :: rest) =
      if t.closer?.isSome then openAfter (t :: opened) rest
      else if t.isCloser then
        match opened with
        | [] => none
        | o :: more => if o.closer? = some t.value then openAfter more rest else none
      else openAfter opened rest :=
  openAfter.eq_def opened (t :: rest)

theorem searchClose_cons (opened : List Token) (place : Nat) (t : Token) (rest : List Token) :
    searchClose opened place (t :: rest) =
      if t.closer?.isSome then searchClose (t :: opened) (place + 1) rest
      else if t.isCloser then
        match opened with
        | [] => .wrong t
        | o :: more =>
          if o.closer? = some t.value then
            if more.isEmpty then .found place else searchClose more (place + 1) rest
          else .wrong t
      else searchClose opened (place + 1) rest :=
  searchClose.eq_def opened place (t :: rest)

/-- Behind the tokens nothing is open any more, whatever may have been open before them. -/
def Closes (ts : List Token) : Prop := ∃ opened, openAfter opened ts = some []

theorem Closes.behind (h : Closes (t :: rest)) : Closes rest := by
  obtain ⟨opened, h⟩ := h
  rw [openAfter_cons] at h
  split_ifs at h
  · exact ⟨_, h⟩
  · cases opened with
    | nil => cases h
    | cons o more =>
        dsimp only at h
        split_ifs at h
        exact ⟨_, h⟩
  · exact ⟨_, h⟩

/-- Delimiters that are open before tokens which close everything are closed by them. -/
theorem searchClose_of_openAfter {more : List Token} (hne : opened ≠ [])
    (h : openAfter (opened ++ more) ts = some []) (place : Nat) :
    ∃ found, searchClose opened place ts = .found found := by
  induction ts generalizing opened place with
  | nil => simp [openAfter, hne] at h
  | cons t ts ih =>
      rw [openAfter_cons] at h
      rw [searchClose_cons]
      split_ifs at h ⊢ with hopens hcloses
      · exact ih (List.cons_ne_nil _ _) h _
      · obtain ⟨o, opened, rfl⟩ := List.exists_cons_of_ne_nil hne
        dsimp only [List.cons_append] at h ⊢
        split_ifs at h ⊢ with hfits hlast
        · exact ⟨place, rfl⟩
        · exact ih (by simpa using hlast) h _
      · exact ih hne h _

theorem openAfter_opener (h : t.closer?.isSome = true) (opened rest : List Token) :
    openAfter opened (t :: rest) = openAfter (t :: opened) rest := by
  rw [openAfter_cons, if_pos h]

theorem openAfter_closer {o : Token} (hopens : ¬ t.closer?.isSome = true)
    (hcloses : t.isCloser = true) (hfits : o.closer? = some t.value) (opened rest : List Token) :
    openAfter (o :: opened) (t :: rest) = openAfter opened rest := by
  rw [openAfter_cons, if_neg hopens, if_pos hcloses]
  exact if_pos hfits

theorem openAfter_plain (hopens : ¬ t.closer?.isSome = true) (hcloses : ¬ t.isCloser = true)
    (opened rest : List Token) : openAfter opened (t :: rest) = openAfter opened rest := by
  rw [openAfter_cons, if_neg hopens, if_neg hcloses]

/-- What is open behind a token decides what is open behind the token and some more. -/
theorem openAfter_take_cons {opened' : List Token} {place found : Nat}
    (hstep : ∀ rest, openAfter opened (t :: rest) = openAfter opened' rest)
    (h : place + 1 ≤ found ∧ openAfter opened' (ts.take (found - (place + 1))) = some []) :
    place ≤ found ∧ openAfter opened ((t :: ts).take (found - place)) = some [] := by
  have hcount : found - place = (found - (place + 1)) + 1 := by omega
  rw [hcount, List.take_succ_cons, hstep]
  exact ⟨by omega, h.2⟩

/-- What stands before the delimiter that closes the first open one closes all others. -/
theorem openAfter_of_searchClose (opened : List Token) {o : Token} {place found : Nat}
    (h : searchClose (opened ++ [o]) place ts = .found found) :
    place ≤ found ∧ openAfter opened (ts.take (found - place)) = some [] := by
  induction ts generalizing opened place with
  | nil => simp [searchClose] at h
  | cons t ts ih =>
      rw [searchClose_cons] at h
      split_ifs at h with hopens hcloses
      · exact openAfter_take_cons (openAfter_opener hopens opened) (ih (t :: opened) h)
      · cases opened with
        | nil =>
            dsimp only [List.nil_append] at h
            split_ifs at h with hfits hlast
            · cases h
              simp [openAfter]
            · simp at hlast
        | cons p opened =>
            dsimp only [List.cons_append] at h
            split_ifs at h with hfits hlast
            · simp at hlast
            · exact openAfter_take_cons (openAfter_closer hopens hcloses hfits opened)
                (ih opened h)
      · exact openAfter_take_cons (openAfter_plain hopens hcloses opened) (ih opened h)

/-- In tokens that close everything the closing delimiter of a group is found, and what is inside
the group closes everything. -/
theorem enclosed_closes : Enclosed Closes (fun _ => True) fun _ => False where
  behind := Closes.behind
  tokens := fun _ _ _ => trivial
  group := fun opener hopener c hc => by
    have region : Region Closes fun _ => True := ⟨Closes.behind, fun _ _ _ => trivial⟩
    have hskip := region.skip hc
    rw [Recognizer.group]
    cases hrest : c.skip.rest with
    | nil => trivial
    | cons t rest =>
        dsimp only
        split_ifs with hop
        · rw [hrest] at hskip
          obtain ⟨opened, hopened⟩ := hskip
          have hopens : t.closer?.isSome = true := by
            simp only [Token.isOp, Bool.and_eq_true, beq_iff_eq] at hop
            simpa [Token.closer?, hop] using hopener
          rw [openAfter_cons, if_pos hopens] at hopened
          obtain ⟨found, hfound⟩ :=
            searchClose_of_openAfter (List.cons_ne_nil t []) hopened 1
          obtain ⟨hle, hinside⟩ := openAfter_of_searchClose [] hfound
          have hclose : matchingClose (t :: rest) 0 (t :: rest).length = .ok found := by
            rw [matchingClose, List.take_length, List.drop_zero, searchClose_cons, if_pos hopens,
              hfound]
          rw [hclose]
          refine ⟨region.drop (region.skip hc) _, [], ?_⟩
          obtain ⟨count, rfl⟩ : ∃ count, found = count + 1 := ⟨found - 1, by omega⟩
          simpa using hinside
        · trivial

/-- The tokens of a statement close everything that is open before them. -/
theorem openAfter_of_statementLength {last : Option Token} {count n : Nat}
    (h : statementLength opened last count ts = .ok n) :
    count ≤ n ∧ openAfter opened (ts.take (n - count)) = some [] := by
  induction ts generalizing opened last count with
  | nil =>
      cases opened with
      | nil =>
          cases h
          simp [openAfter]
      | cons o opened => cases h
  | cons t ts ih =>
      have hdone : ∀ {opened : List Token}, opened.isEmpty = true →
          count ≤ count ∧ openAfter opened ((t :: ts).take (count - count)) = some [] := by
        intro opened hempty
        obtain rfl := List.isEmpty_iff.1 hempty
        simp [openAfter]
      have hpassed : t.kind ≠ .op → ∀ rest, openAfter opened (t :: rest) = openAfter opened rest :=
        fun hkind => openAfter_plain (by simp [Token.closer?, hkind])
          (by simp [Token.isCloser, hkind]) opened
      rw [statementLength.eq_def] at h
      dsimp only at h
      split_ifs at h with hcomment hend hbreak hgoes hopens hcloses
      · exact openAfter_take_cons (hpassed (by simp [hcomment])) (ih h)
      · cases h
        exact hdone (by simpa using (Bool.and_eq_true_iff.1 hend).1)
      · cases h
        exact hdone (by simpa using (Bool.and_eq_true_iff.1 hgoes).1)
      · exact openAfter_take_cons (hpassed (by simp [hbreak])) (ih h)
      · exact openAfter_take_cons (openAfter_opener hopens opened) (ih h)
      · cases opened with
        | nil => cases h
        | cons o opened =>
            dsimp only at h
            split_ifs at h with hfits
            exact openAfter_take_cons (openAfter_closer hopens hcloses hfits opened) (ih h)
      · exact openAfter_take_cons (openAfter_plain hopens hcloses opened) (ih h)

theorem closes_statement {n : Nat} (h : statementLength [] none 0 ts = .ok n) :
    Closes (ts.take n) :=
  ⟨[], (openAfter_of_statementLength h).2⟩

end Stacks

section Headers

/-- A class name is read token by token. -/
theorem Region.typeName (region : Region C T) : Ensures C S typeName fun _ => True := by
  have hqualified : ∀ count name, Ensures C S (qualifiedName count name) fun _ => True := by
    intro count
    induction count with
    | zero => exact fun name => ensures_pure trivial
    | succ count ih =>
        intro name c hc
        rw [qualifiedName]
        beta_reduce
        split
        · split_ifs
          · exact ih _ _ (region.next (region.next hc))
          · exact ⟨hc, trivial⟩
        · exact ⟨hc, trivial⟩
  exact region.anyIdent.bind fun name _ c hc => hqualified c.rest.length name c hc

theorem Region.classLiteral (region : Region C T) : Ensures C S classLiteral fun _ => True :=
  region.typeName.bind fun _ _ => (region.op "::").bind fun _ _ => (region.ident "class").bind
    fun _ _ => ((region.op ".").bind fun _ _ => (region.ident "java").optional).optional.bind
      fun _ _ => ensures_pure trivial

theorem Region.typeArgument (region : Region C T) : Ensures C S typeArgument fun _ => True :=
  (region.op "<").bind fun _ _ => region.typeName.bind fun _ _ => (region.op ">").bind
    fun _ _ => ensures_pure trivial

theorem Enclosed.registerCall (region : Enclosed C T S) :
    Ensures C S registerCall fun _ => True := by
  refine (region.ident "tasks").bind fun _ _ => (region.op ".").bind fun _ _ =>
    region.anyIdent.bind fun _ _ => (ensures_require _).bind fun _ _ =>
      region.typeArgument.optional.bind fun className _ =>
        (region.group "(" rfl).bind fun args _ => ?_
  split
  · exact (ensures_require _).bind fun _ _ => ensures_pure trivial
  · refine (ensures_require _).bind fun _ _ => ?_
    -- a class literal holds no group, so it is read among tokens of any sort
    have hany : Region (fun _ => True) fun _ => True := ⟨fun _ => trivial, fun _ _ _ => trivial⟩
    split
    · exact ensures_pure trivial
    · exact (hany.classLiteral.within trivial).bind fun _ _ => ensures_pure trivial
  · exact ensures_absent

theorem Enclosed.delegatedValue (region : Enclosed C T S) :
    Ensures C S delegatedValue fun _ => True := by
  refine (region.ident "val").bind fun _ _ => region.anyIdent.bind fun name _ =>
    (ensures_require _).bind fun _ _ => (region.ident "by").bind fun _ _ =>
      (region.ident "tasks").bind fun _ _ => (region.op ".").bind fun _ _ =>
        region.anyIdent.bind fun _ _ => (ensures_require _).bind fun _ _ =>
          region.typeArgument.optional.bind fun className _ c hc => ?_
  have hgroup := region.group "(" rfl c hc
  rw [delegatedClass]
  cases hread : Recognizer.group "(" c with
  | found args rest =>
      rw [hread] at hgroup
      dsimp only
      split
      · exact ⟨hgroup.1, trivial⟩
      · exact ⟨hc, trivial⟩
  | absent => exact ⟨region.skip hc, trivial⟩
  | stopped cause =>
      rw [hread] at hgroup
      exact hgroup

/-- The header of a registration is found or absent, and what is behind it belongs to the region. -/
theorem Enclosed.registration (region : Enclosed C T S) :
    Ensures C (fun _ => False) registration fun _ => True := by
  intro c hc
  have hread := (region.registerCall.orElse region.delegatedValue) c hc
  rw [Script.registration]
  cases heq : (Script.registerCall <|> Script.delegatedValue) c with
  | found header rest =>
      rw [heq] at hread
      exact hread
  | absent => trivial
  | stopped cause => trivial

/-- The declaration of a variable is read from tokens of the region. -/
theorem Enclosed.variableDeclaration (region : Enclosed C T S) :
    Ensures C S variableDeclaration fun _ => True := by
  refine (region.ident "val").bind fun _ _ => region.anyIdent.bind fun _ _ =>
    (region.op ":").bind fun _ _ => (region.ident "String").bind fun _ _ =>
      Ensures.bind (P := fun _ => True) (Ensures.orElse ?_ ?_) fun _ _ => ensures_pure trivial
  · refine (region.op "=").bind fun _ _ => Ensures.orElse ?_ ?_
    · exact (region.path _).bind fun _ _ => (region.stringIn rfl).bind fun _ _ =>
        (region.op "?.").bind fun _ _ => (region.ident "toString").bind fun _ _ =>
          (region.ops _).bind fun _ _ => (region.op "?:").bind fun _ _ =>
            region.string.weaken fun _ _ => trivial
    · refine (region.group "(" rfl).bind fun inner hinner => (region.op ".").bind fun _ _ =>
        (region.ident "toString").bind fun _ _ => (region.ops _).bind fun _ _ => ?_
      exact Ensures.within ((region.path _).bind fun _ _ => (region.stringIn rfl).bind fun _ _ =>
        (region.op "?:").bind fun _ _ => region.string.bind fun _ _ =>
          region.finished.bind fun _ _ => ensures_pure trivial) hinner
  · exact (region.ident "by").bind fun _ _ => (region.path _).bind fun _ _ =>
      (region.stringIn rfl).weaken fun _ _ => trivial

end Headers

section Strict

/-- Reads a statement outside all blocks, and stops if a reading stops at its delimiters. -/
def strictStatement (text : String) (tokens : List Token) (line : Nat) (f : Findings) :
    Except Stop Findings :=
  match registration ⟨tokens, 0⟩ with
  | .found header rest =>
    match Recognizer.group "\x7b" rest with
    | .found inner _ => (readBlock text header inner line f).mapError .integer
    | .absent => (readBlock text header [] line f).mapError .integer
    | .stopped cause => .error cause
  | .absent =>
    match variableDeclaration ⟨tokens, 0⟩ with
    | .stopped cause => .error cause
    | _ => .ok (readVariable tokens f)
  | .stopped cause => .error cause

/-- Reads tokens one statement after another, as `readTokens` does, by `strictStatement`. -/
def strictTokens (text : String) (skip : Nat) (comment : Option String) (f : Findings) :
    List Token → Except Stop Findings
  | [] => .ok f
  | t :: rest =>
    match skip with
    | more + 1 => strictTokens text more comment f rest
    | 0 =>
      if t.kind == .newline || t.isOp ";" then strictTokens text 0 comment f rest
      else if t.kind == .comment then
        let f := if comment = some disabledMarker then readStub t f else f
        strictTokens text 0 (some t.value) f rest
      else
        match statementLength [] none 0 (t :: rest) with
        | .ok n =>
          match strictStatement text ((t :: rest).take n) t.line f with
          | .ok f => strictTokens text (n - 1) none f rest
          | .error stop => .error stop
        | .error cause =>
          let (f, n) := passOver cause t rest f
          strictTokens text (n - 1) none f rest

/-- Reads a script, and stops where a reading outside all blocks stops at delimiters. -/
def strictScript (text : String) (ids : IdGenerator) : Except Stop ScriptReading := do
  let scanned := scan text
  let warnings := scanned.faults.map fun f => ScriptWarning.lexical f.1 f.2
  let found ← strictTokens text 0 none { ids, warnings } scanned.tokens
  return assemble found

/-- No reading of a statement stops at its delimiters. -/
theorem strictStatement_eq (text : String) (h : Closes ts) (line : Nat) (f : Findings) :
    strictStatement text ts line f = (readTopStatement text ts line f).mapError .integer := by
  have hheader := enclosed_closes.registration ⟨ts, 0⟩ h
  rw [strictStatement, readTopStatement]
  cases hregistration : registration ⟨ts, 0⟩ with
  | found header rest =>
      rw [hregistration] at hheader
      have hgroup := enclosed_closes.group "\x7b" rfl rest hheader.1
      cases hbody : Recognizer.group "\x7b" rest with
      | found inner after => simp only [hbody]
      | absent => simp only [hbody]
      | stopped cause =>
          rw [hbody] at hgroup
          exact hgroup.elim
  | absent =>
      have hvariable := enclosed_closes.variableDeclaration ⟨ts, 0⟩ h
      cases hread : variableDeclaration ⟨ts, 0⟩ with
      | found declared rest => rfl
      | absent => rfl
      | stopped cause =>
          rw [hread] at hvariable
          exact hvariable.elim
  | stopped cause =>
      rw [hregistration] at hheader
      exact hheader.elim

theorem strictTokens_eq (text : String) (skip : Nat) (comment : Option String) (f : Findings)
    (ts : List Token) :
    strictTokens text skip comment f ts =
      (readTokens text skip comment f ts).mapError .integer := by
  induction ts generalizing skip comment f with
  | nil => rfl
  | cons t rest ih =>
      cases skip with
      | succ more => exact ih more comment f
      | zero =>
          rw [strictTokens, readTokens]
          dsimp only
          split_ifs with hbreak hcomment hstub
          · exact ih _ _ _
          · exact ih _ _ _
          · exact ih _ _ _
          · cases hlength : statementLength [] none 0 (t :: rest) with
            | error cause => exact ih _ _ _
            | ok n =>
                dsimp only
                rw [strictStatement_eq text (closes_statement hlength)]
                cases readTopStatement text ((t :: rest).take n) t.line f with
                | error stop => rfl
                | ok found => exact ih _ _ _

/-- No reading outside all blocks stops at delimiters. -/
theorem strictScript_eq (text : String) (ids : IdGenerator) :
    strictScript text ids = (readScript text ids).mapError .integer := by
  rw [strictScript, readScript, strictTokens_eq]
  cases readTokens text 0 none _ (scan text).tokens <;> rfl

end Strict

end BuildGraph.Script
