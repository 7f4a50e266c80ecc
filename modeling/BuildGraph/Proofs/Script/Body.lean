import BuildGraph.Proofs.Script.Recognize
import BuildGraph.Proofs.Script.Spelling
import BuildGraph.Script.Block

/-!
# Statements in the body of a block

Every sort of statement that a writer puts into a block is understood: reading it changes the block
in one way and remarks nothing. `Understood` says so for the signs of a statement, whatever the text
around it is and whichever variables are declared.
-/

namespace BuildGraph.Script

open Recognizer BuildGraph.Number BuildGraph.Text

/-- Reading a statement of the signs changes a block and remarks nothing. -/
structure Understood (signs : List Sign) (change : Block → Block) : Prop where
  statement : IsStatement signs
  read : ∀ text declared tokens b, tokens.map Token.sign = signs →
    readStatement tokens (statementReadings text declared) b = .ok (change b, [])

variable {signs inner : List Sign} {values : List String} {tokens : List Token}
  {readings : List (Recognizer Effect)} {reading : Recognizer Effect} {effect : Effect}
  {change : Block → Block} {property method : String}

/-- A reading that misses the statement leaves it to the next one. -/
theorem readStatement_of_misses (h : Misses reading signs) (htokens : tokens.map Token.sign = signs)
    (b : Block) :
    readStatement tokens (reading :: readings) b = readStatement tokens readings b := by
  have hmiss := h tokens [] 0 htokens
  rw [List.append_nil] at hmiss
  rw [readStatement, hmiss]

/-- A reading that understands all of the statement is the last one. -/
theorem readStatement_of_readsAll (h : ReadsAll reading signs (changing change))
    (htokens : tokens.map Token.sign = signs) (b : Block) :
    readStatement tokens (reading :: readings) b = .ok (change b, []) := by
  obtain ⟨pos, hread⟩ := h tokens 0 htokens
  rw [readStatement, hread]
  rfl

section Assignments

/-- A property is set when its value is read. -/
theorem understood_assigned {value : List Sign} (h : Inline value) (hne : value ≠ [])
    (hends : ∀ s ∈ value.getLast?, s.carriesOn = false)
    (hvalue : Reads (propertyValue property) value (changing change)) :
    Understood (assigned property value) change where
  statement := isStatement_assigned property h hne hends
  read := fun _ _ _ b htokens =>
    readStatement_of_readsAll (.of_reads (reads_anyIdent.step (reads_op.step hvalue))) htokens b

/-- The properties whose values are neither texts nor truth values nor numbers. -/
def structuredProperties : List String :=
  ["duplicatesStrategy", "destinationDirectory", "workingDir", "timeout"]

theorem propertyValue_eq (h : property ∉ structuredProperties) :
    propertyValue property =
      match textProperty? property, booleanProperty? property, integerProperty? property with
      | some effect, _, _ => do return effect (← string)
      | none, some effect, _ => do return effect (← boolean)
      | none, none, some effect => do return effect (← integer)
      | none, none, none => absent := by
  simp only [structuredProperties, List.mem_cons, List.not_mem_nil, or_false, not_or] at h
  obtain ⟨hduplicates, hdestination, hdirectory, htimeout⟩ := h
  exact (if_neg hduplicates).trans ((if_neg hdestination).trans
    ((if_neg hdirectory).trans (if_neg htimeout)))

/-- A property takes a text. -/
theorem understood_text {change : String → Block → Block}
    (hproperty : property ∉ structuredProperties)
    (h : textProperty? property = some fun v => changing (change v)) (v : String) :
    Understood (assigned property [.string v]) (change v) := by
  refine understood_assigned (.plain rfl .nil) (by simp) (by simp [Sign.carriesOn, Sign.string]) ?_
  rw [propertyValue_eq hproperty, h]
  exact reads_string.step (reads_pure _)

theorem reads_boolean (value : Bool) : Reads boolean [.ident (toString value)] value := by
  cases value with
  | false =>
      refine Misses.orElse ?_ (reads_ident.step (reads_pure _))
      exact (misses_ident rfl (by decide)).bind
  | true =>
      have htrue : Reads (ident "true" >>= fun _ => pure true) [.ident "true"] true :=
        reads_ident.step (reads_pure true)
      exact htrue.orElse

/-- A property takes a truth value. -/
theorem understood_boolean {change : Bool → Block → Block}
    (hproperty : property ∉ structuredProperties) (htext : textProperty? property = none)
    (h : booleanProperty? property = some fun v => changing (change v)) (value : Bool) :
    Understood (assigned property [.ident (toString value)]) (change value) := by
  refine understood_assigned (.plain rfl .nil) (by simp) (by simp [Sign.carriesOn, Sign.ident]) ?_
  rw [propertyValue_eq hproperty, htext, h]
  exact (reads_boolean value).step (reads_pure _)

/-- The digits of a natural number are left as they are. -/
theorem integerText_toString (n : Nat) : integerText (toString n) = toString n := by
  have hdigits : ∀ c ∈ (toString n).toList, c.isDigit = true := fun c => isDigit_of_mem_toString
  have htrim : trimRightOf ['L', 'l'] (toString n) = toString n := by
    rw [trimRightOf, dropEnd_eq_self, String.ofList_toList]
    intro c hc
    refine forall_digit (P := fun c => ['L', 'l'].contains c = false) ?_ (hdigits c hc)
    decide
  have hlines : (toString n).toList.filter (· != '_') = (toString n).toList := by
    refine List.filter_eq_self.2 fun c hc => ?_
    simpa using (digit_facts (hdigits c hc)).2.2.2.1
  rw [integerText, htrim, hlines, String.ofList_toList]

/-- Digits are read as the integer that they stand for. -/
theorem reads_integer_of {digits : String} {k : Int}
    (hdigits : isDigitText (integerText digits) = true)
    (hread : requireInteger (integerText digits) = .ok k) : Reads integer [.number digits] k := by
  intro tokens rest pos htokens
  have hnumber := reads_number tokens rest pos htokens
  change andThen number _ _ = _
  simp only [andThen, hnumber, hdigits, hread, if_true]

/-- A change of the settings of a block. -/
def onSettings (change : Settings → Settings) (b : Block) : Block :=
  { b with settings := change b.settings }

/-- The way to treat duplicates is set by its name. -/
theorem understood_duplicates (d : Duplicates) :
    Understood (assigned "duplicatesStrategy" [.ident "DuplicatesStrategy", .op ".", .ident d.name])
      (onSettings fun s => { s with duplicates := some d }) := by
  have hname : ofName? d.name = some d := by cases d <;> decide
  have hvalue : Reads (anyIdent >>= fun name => ofOption (ofName? name) >>= fun value =>
      pure (setting fun s => { s with duplicates := some value })) [.ident d.name]
      (setting fun s => { s with duplicates := some d }) := by
    refine reads_anyIdent.step ?_
    rw [hname]
    exact (reads_ofOption d).pass (reads_pure _)
  refine understood_assigned (.plain rfl (.plain rfl (.plain rfl .nil))) (by simp)
    (by simp [Sign.carriesOn, Sign.ident]) ?_
  exact reads_ident.step (reads_op.step hvalue)

/-- What goes on at no end goes on at no end with a sign in front. -/
theorem ends_cons {s : Sign} (h : ∀ x ∈ signs.getLast?, x.carriesOn = false) (hne : signs ≠ []) :
    ∀ x ∈ (s :: signs).getLast?, x.carriesOn = false := by
  obtain ⟨t, signs, rfl⟩ := List.exists_cons_of_ne_nil hne
  rwa [List.getLast?_cons_cons]

/-- A call ends no line that goes on. -/
theorem call_ends (h : Balanced inner) : ∀ s ∈ (call method inner).getLast?, s.carriesOn = false :=
  (isStatement_call method h).ends

/-- A file is given by its path. -/
theorem reads_fileCall (path : String) : Reads fileCall (call "file" [.string path]) path :=
  reads_ident.step (reads_stringIn rfl)

theorem understood_workingDir (path : String) :
    Understood (assigned "workingDir" (call "file" [.string path]))
      (onSettings fun s => { s with workingDir := some path }) := by
  have hcall : Balanced [Sign.string path] := .plain rfl .nil
  refine understood_assigned (isStatement_call _ hcall).inline (by simp [call]) (call_ends hcall) ?_
  exact (reads_fileCall path).last (reads_pure _)

/-- The signs of a directory of the project. -/
def projectDirectory (path : String) : List Sign :=
  .ident "layout" :: .op "." :: .ident "projectDirectory" :: .op "." ::
    call "dir" [.string path]

theorem reads_directory (path : String) : Reads directory (projectDirectory path) path := by
  refine Reads.orElse (reads_ident.step (reads_op.step (reads_anyIdent.step ?_)))
  refine (reads_require rfl).pass (reads_op.step (reads_ident.step ?_))
  exact reads_stringIn rfl

theorem understood_destinationDirectory (path : String) :
    Understood (assigned "destinationDirectory" (projectDirectory path))
      (onSettings fun s => { s with destinationDirectory := some path }) := by
  have hcall : Balanced [Sign.string path] := .plain rfl .nil
  have hinline : Inline (projectDirectory path) :=
    .plain rfl (.plain rfl (.plain rfl (.plain rfl (isStatement_call _ hcall).inline)))
  have hends : ∀ s ∈ (projectDirectory path).getLast?, s.carriesOn = false :=
    ends_cons (ends_cons (ends_cons (ends_cons (call_ends hcall) (by simp [call])) (by simp))
      (by simp)) (by simp)
  refine understood_assigned hinline (by simp [projectDirectory]) hends ?_
  exact (reads_directory path).last (reads_pure _)

end Assignments

section Calls

/-- A call is no assignment. -/
theorem misses_assignment_call : Misses assignment (call method inner) := by
  refine reads_anyIdent.misses_step (Misses.bind ?_)
  exact (misses_op rfl (by decide)).cons _

/-- A call is no call of a setter. -/
theorem misses_setterCall_call : Misses setterCall (call method inner) := by
  refine reads_anyIdent.misses_step (Misses.bind ?_)
  exact (misses_op rfl (by decide)).cons _

/-- A call is understood as what its method does with its arguments. -/
theorem understood_call (h : Balanced inner)
    (hcall : ∀ text, Reads (methodCall text) (call method inner) (changing change)) :
    Understood (call method inner) change where
  statement := isStatement_call method h
  read := fun text declared tokens b htokens => by
    rw [statementReadings, readStatement_of_misses misses_assignment_call htokens,
      readStatement_of_misses misses_setterCall_call htokens]
    exact readStatement_of_readsAll (.of_reads (hcall text)) htokens b

/-- A call with literals adds them to a setting. -/
theorem understood_list {change : List String → Settings → Settings}
    (hrelation : (ofName? method : Option Relation) = none)
    (h : listCall? method = some fun values => setting (change values)) (values : List String) :
    Understood (call method (literals values)) (onSettings (change values)) := by
  refine understood_call (literals_balanced values) fun text => ?_
  refine reads_anyIdent.step
    (reads_group_bind rfl (literals_balanced values) fun inside hinside => ?_)
  rw [hrelation, h]
  simp only
  rw [stringArguments?_intercalate hinside]
  exact (reads_ofOption values).pass (reads_pure _)

/-- A call with one value or a pair of values sets a setting. -/
theorem understood_value (hrelation : (ofName? method : Option Relation) = none)
    (hlist : listCall? method = none) (values : List String)
    (h : ∀ inside : List Token, inside.map Token.sign = literals values →
      valueCall? method inside = some (changing change)) :
    Understood (call method (literals values)) change := by
  refine understood_call (literals_balanced values) fun text => ?_
  refine reads_anyIdent.step
    (reads_group_bind rfl (literals_balanced values) fun inside hinside => ?_)
  rw [hrelation, hlist]
  simp only
  rw [h inside hinside]
  exact reads_ofOption _

theorem understood_into (value : String) :
    Understood (call "into" (literals [value]))
      (onSettings fun s => { s with into := some value }) := by
  refine understood_value (by decide) (by decide) [value] fun inside hinside => ?_
  rw [valueCall?, if_pos rfl, singleString?_eq hinside]
  rfl

theorem understood_environment (key value : String) :
    Understood (call "environment" (literals [key, value])) (onSettings fun s =>
      { s with environment := some ((s.environment.getD ∅).set key value) }) := by
  refine understood_value (by decide) (by decide) [key, value] fun inside hinside => ?_
  rw [valueCall?, if_neg (by decide), if_neg (by decide), if_pos rfl,
    stringArguments?_intercalate hinside]
  rfl

/-- A literal refers to the task that it names, when no colon starts the name. -/
theorem taskReference?_string {name : String} (hname : name.toList.head? ≠ some ':')
    (hne : name ≠ "") (htokens : tokens.map Token.sign = [.string name]) :
    taskReference? tokens = some name := by
  have hread : ∀ r, (string <|> r) ⟨tokens, 0⟩ = .found name ⟨[], 0 + tokens.length⟩ := by
    intro r
    have hstring : Reads (string <|> r) [.string name] name := reads_string.orElse
    simpa using hstring tokens [] 0 htokens
  have hplain : name.toList.dropWhile (· == ':') = name.toList := by
    cases hchars : name.toList with
    | nil => rfl
    | cons c cs =>
        rw [hchars] at hname
        exact List.dropWhile_cons_of_neg (by simpa using hname)
  rw [taskReference?, hread]
  simp [hplain, hne, Cursor.atEnd, Cursor.skip, Cursor.advance]

/-- A call of the name of a relation relates the task to another. -/
theorem understood_relation (relation : Relation) {name : String}
    (hname : name.toList.head? ≠ some ':') (hne : name ≠ "") :
    Understood (call relation.name (literals [name]))
      fun b => { b with relations := b.relations ++ [(relation, name)] } := by
  have hrelation : (ofName? relation.name : Option Relation) = some relation := by
    cases relation <;> decide
  refine understood_call (literals_balanced _) fun text => ?_
  refine reads_anyIdent.step (reads_group_bind rfl (literals_balanced _) fun inside hinside => ?_)
  rw [hrelation]
  obtain ⟨t, hsplit, ht⟩ := splitArguments_string hinside
  have hreference : taskReference? [t] = some name :=
    taskReference?_string hname hne (by rw [List.map_singleton, ht])
  have hrelating : relating text relation (splitArguments inside) =
      changing fun b => { b with relations := b.relations ++ [(relation, name)] } := by
    rw [hsplit, relating]
    simp [hreference, changing]
  rw [← hrelating]
  exact reads_pure _

end Calls

section Options

/-- The signs of a setting of the compiler and what it changes. -/
structure UnderstoodOption (signs : List Sign) (change : Settings → Settings) : Prop where
  statement : IsStatement signs
  read : ReadsAll compilerOption signs (setting change)

/-- A setting that is read to its end is complete. -/
theorem readsAll_complete (change : Settings → Settings) :
    ReadsAll (fun c => .found { setting change with complete := c.atEnd } c) []
      (setting change) := by
  intro tokens pos htokens
  obtain rfl := List.map_eq_nil_iff.1 htokens
  exact ⟨pos, rfl⟩

theorem understoodOption_encoding (value : String) :
    UnderstoodOption (assigned "encoding" [.string value])
      fun s => { s with encoding := some value } where
  statement :=
    isStatement_assigned _ (.plain rfl .nil) (by simp) (by simp [Sign.carriesOn, Sign.string])
  read := by
    refine reads_anyIdent.step_all ?_
    rw [if_pos rfl]
    refine Reads.last_all (reads_op.step (reads_string.step (reads_pure _))) ?_
    exact readsAll_complete _

theorem understoodOption_deprecation (value : Bool) :
    UnderstoodOption (assigned "isDeprecation" [.ident (toString value)])
      fun s => { s with deprecation := some value } where
  statement :=
    isStatement_assigned _ (.plain rfl .nil) (by simp) (by simp [Sign.carriesOn, Sign.ident])
  read := by
    refine reads_anyIdent.step_all ?_
    rw [if_neg (by decide), if_pos rfl]
    refine Reads.last_all (reads_op.step ((reads_boolean value).step (reads_pure _))) ?_
    exact readsAll_complete _

theorem understoodOption_warnings (value : Bool) :
    UnderstoodOption (assigned "isWarnings" [.ident (toString value)])
      fun s => { s with warnings := some value } where
  statement :=
    isStatement_assigned _ (.plain rfl .nil) (by simp) (by simp [Sign.carriesOn, Sign.ident])
  read := by
    refine reads_anyIdent.step_all ?_
    rw [if_neg (by decide), if_neg (by decide), if_pos rfl]
    refine Reads.last_all (reads_op.step ((reads_boolean value).step (reads_pure _))) ?_
    exact readsAll_complete _

/-- The signs of further arguments of the compiler. -/
def compilerArguments (values : List String) : List Sign :=
  .ident "compilerArgs" :: .op "." :: call "addAll" (call "listOf" (literals values))

theorem understoodOption_compilerArgs (values : List String) :
    UnderstoodOption (compilerArguments values)
      fun s => { s with compilerArgs := Settings.extend s.compilerArgs values } where
  statement :=
    { inline := .plain rfl (.plain rfl (isStatement_call _
        (isStatement_call _ (literals_balanced values)).inline.balanced).inline)
      starts := ⟨_, _, rfl⟩
      ends := ends_cons (ends_cons (call_ends (isStatement_call _
        (literals_balanced values)).inline.balanced) (by simp [call])) (by simp) }
  read := by
    have hinner := (isStatement_call "listOf" (literals_balanced values)).inline.balanced
    refine reads_anyIdent.step_all ?_
    rw [if_neg (by decide), if_neg (by decide), if_neg (by decide), if_pos rfl]
    refine Reads.last_all ?_ (readsAll_complete _)
    refine reads_op.step (reads_anyIdent.step
      (reads_group_bind rfl hinner fun inside hinside => ?_))
    rw [if_pos rfl]
    refine (ReadsAll.within ?_ hinside).pass (reads_pure _)
    refine reads_ident.step_all (readsAll_group_bind rfl (literals_balanced values)
      fun inside hinside => ?_)
    rw [stringArguments?_intercalate hinside]
    exact (reads_ofOption values).bind_all readsAll_finished

/-- The options are read one after another. -/
theorem compilerOptions_eq {pieces : List (List Token)}
    {options : List (List Sign × (Settings → Settings))}
    (h : ∀ o ∈ options, UnderstoodOption o.1 o.2)
    (hpieces : pieces.map (List.map Token.sign) = options.map Prod.fst) :
    compilerOptions pieces = setting fun s => options.foldl (fun s o => o.2 s) s := by
  induction options generalizing pieces with
  | nil =>
      obtain rfl := List.map_eq_nil_iff.1 hpieces
      rfl
  | cons o options ih =>
      obtain ⟨piece, more, rfl, hpiece, hmore⟩ := List.map_eq_cons_iff.1 hpieces
      obtain ⟨ho, hrest⟩ := List.forall_mem_cons.1 h
      obtain ⟨pos, hread⟩ := ho.read piece 0 hpiece
      rw [compilerOptions, hread, ih hrest hmore]
      rfl

/-- The signs of a block of options, one in a line. -/
def optionsBlock (options : List (List Sign)) : List Sign :=
  .ident "options" :: .op "." :: .ident "apply" :: .op "\x7b" ::
    (.newline :: options.flatMap (· ++ [.newline]) ++ [.op "\x7d"])

theorem options_layout {options : List (List Sign × (Settings → Settings))}
    (h : ∀ o ∈ options, UnderstoodOption o.1 o.2) :
    Layout (.newline :: (options.map Prod.fst).flatMap (· ++ [.newline]))
      (options.map Prod.fst) := by
  refine .gap rfl (layout_lines fun signs hsigns => ?_)
  obtain ⟨o, ho, rfl⟩ := List.mem_map.1 hsigns
  exact (h o ho).statement

theorem reads_optionsStatement {options : List (List Sign × (Settings → Settings))}
    (h : ∀ o ∈ options, UnderstoodOption o.1 o.2) :
    Reads optionsStatement (optionsBlock (options.map Prod.fst))
      (setting fun s => options.foldl (fun s o => o.2 s) s) := by
  have hlayout := options_layout h
  refine reads_ident.step (reads_op.step (Reads.orElse (reads_ident.step ?_)))
  refine reads_group_bind rfl hlayout.balanced fun inside hinside => ?_
  obtain ⟨pieces, hsplit, hpieces⟩ := split_layout hlayout hinside
  rw [← compilerOptions_eq h hpieces]
  intro tokens rest pos htokens
  obtain rfl := List.map_eq_nil_iff.1 htokens
  simp only [hsplit]
  rfl

/-- A block of options sets one after another. -/
theorem understood_options {options : List (List Sign × (Settings → Settings))}
    (h : ∀ o ∈ options, UnderstoodOption o.1 o.2) :
    Understood (optionsBlock (options.map Prod.fst))
      (onSettings fun s => options.foldl (fun s o => o.2 s) s) where
  statement :=
    { inline := .plain rfl (.plain rfl (.plain rfl (.group rfl (options_layout h).balanced .nil)))
      starts := ⟨_, _, rfl⟩
      ends := by
        intro s hs
        have hlast : (optionsBlock (options.map Prod.fst)).getLast? = some (.op "\x7d") := by
          rw [optionsBlock, ← List.cons_append, ← List.cons_append, ← List.cons_append,
            ← List.cons_append, List.getLast?_concat]
        obtain rfl := Option.some.inj (hlast.symm.trans hs)
        decide }
  read := fun text declared tokens b htokens => by
    have hassignment : Misses assignment (optionsBlock (options.map Prod.fst)) :=
      reads_anyIdent.misses_step (Misses.bind ((misses_op rfl (by decide)).cons _))
    have hsetter : Misses setterCall (optionsBlock (options.map Prod.fst)) :=
      reads_anyIdent.misses_step (reads_op.misses_step (Misses.bind
        ((misses_ident rfl (by decide)).cons _)))
    have hmethod : Misses (methodCall text) (optionsBlock (options.map Prod.fst)) :=
      reads_anyIdent.misses_step (Misses.bind ((misses_group rfl (by decide)).cons _))
    have hguard : Misses (guardStatement text declared) (optionsBlock (options.map Prod.fst)) :=
      Misses.bind ((misses_ident rfl (by decide)).cons _)
    -- The readings are tried in turn, and those before the last one miss the block.
    rw [statementReadings, readStatement_of_misses hassignment htokens,
      readStatement_of_misses hsetter htokens, readStatement_of_misses hmethod htokens,
      readStatement_of_misses hguard htokens]
    exact readStatement_of_readsAll (.of_reads (reads_optionsStatement h)) htokens b

end Options

end BuildGraph.Script
