import BuildGraph.Proofs.Script.Bodies
import BuildGraph.Proofs.Text.Trim

/-!
# Headers of blocks and declarations of variables

The header that is written for a task is read as the registration of its identifier and its class,
whatever follows it. The declaration of a variable is read as its name and its default and is no
registration; neither are the other statements at the top of a script.
-/

namespace BuildGraph.Script

open Recognizer BuildGraph.Text

variable {className : Option String} {name default : String} {tokens : List Token}
  {signs : List Sign} {s : Sign}

section Registrations

/-- The signs of a class between angle brackets, if there is one. -/
def classSigns : Option String → List Sign
  | none => []
  | some c => [.op "<", .ident c, .op ">"]

/-- The signs of the header of a registration. -/
def headerSigns (className : Option String) (name : String) : List Sign :=
  .ident "tasks" :: .op "." :: .ident "register" ::
    (classSigns className ++ Sign.op "(" :: ([Sign.string name] ++ Sign.op ")" :: []))

/-- A class name ends where no point follows. -/
theorem qualifiedName_of_no_point (count : Nat) (c : Cursor)
    (h : ∀ t ∈ c.peek 0, t.isOp "." = false) :
    qualifiedName count name c = .found name c := by
  cases count with
  | zero => rfl
  | succ count =>
      simp only [qualifiedName]
      split
      · next point t hpoint _ => simp [h point hpoint]
      · rfl

/-- A class name with the packages that qualify it. -/
structure QualifiedName where
  first : String
  more : List String

namespace QualifiedName

/-- The signs of a class name, in which points join the parts. -/
def path (q : QualifiedName) : List Sign :=
  .ident q.first :: q.more.flatMap fun part => [.op ".", .ident part]

/-- The name without what qualifies it. -/
def simple (q : QualifiedName) : String := q.more.getLastD q.first

/-- Nothing behind the first point is read as the end of a class literal. -/
def Plain (q : QualifiedName) : Prop := ∀ part ∈ q.more, part ≠ "java" ∧ part ≠ "class"

end QualifiedName

/-- The parts of a class name are read to the last one, which no point follows. -/
theorem qualifiedName_parts {parts : List String} {tokens rest : List Token} {u : Token}
    (hparts : ∀ part ∈ parts, part ≠ "java" ∧ part ≠ "class")
    (htokens : tokens.map Token.sign = parts.flatMap fun part => [.op ".", .ident part])
    (hu : u.isSignificant = true) (hpoint : u.isOp "." = false) {count : Nat}
    (hcount : parts.length ≤ count) (name : String) (pos : Nat) :
    qualifiedName count name ⟨tokens ++ u :: rest, pos⟩ =
      .found (parts.getLastD name) ⟨u :: rest, pos + tokens.length⟩ := by
  induction parts generalizing tokens count name pos with
  | nil =>
      obtain rfl := List.map_eq_nil_iff.1 htokens
      refine qualifiedName_of_no_point _ _ fun v hv => ?_
      rw [List.nil_append, Cursor.peek, List.filter_cons_of_pos hu] at hv
      obtain rfl := Option.some.inj hv
      exact hpoint
  | cons part parts ih =>
      obtain ⟨hpart, hparts⟩ := List.forall_mem_cons.1 hparts
      rw [List.flatMap_cons, List.cons_append, List.cons_append] at htokens
      obtain ⟨t, more, rfl, ht, hmore⟩ := List.map_eq_cons_iff.1 htokens
      obtain ⟨v, after, rfl, hv, hafter⟩ := List.map_eq_cons_iff.1 hmore
      rw [List.length_cons] at hcount
      obtain ⟨count, rfl⟩ : ∃ k, count = k + 1 := ⟨count - 1, by omega⟩
      have hsignificant : t.isSignificant = true ∧ v.isSignificant = true := by
        rw [isSignificant_eq, isSignificant_eq, ht, hv]
        exact ⟨rfl, rfl⟩
      have hnext : ∀ (w : Token) (rest : List Token) (pos : Nat), w.isSignificant = true →
          (Cursor.mk (w :: rest) pos).next = (some w, ⟨rest, pos + 1⟩) := fun w rest pos hw => by
        simp [Cursor.next, Cursor.skip, Cursor.advance, hw]
      have hvalue : v.kind = .ident ∧ v.value = part := Prod.ext_iff.1 hv
      have htest : (t.isOp "." && v.kind == .ident && v.value != "java" && v.value != "class") =
          true := by
        simp [isOp_of_sign ht, hvalue, hpart]
      have hlater := ih hparts hafter (Nat.le_of_succ_le_succ hcount) part (pos + 1 + 1)
      have hahead : ∀ offset, (Cursor.mk (t :: v :: (after ++ u :: rest)) pos).peek offset =
          (t :: v :: (after ++ u :: rest).filter Token.isSignificant)[offset]? := fun offset => by
        rw [Cursor.peek, List.filter_cons_of_pos hsignificant.1,
          List.filter_cons_of_pos hsignificant.2]
      simp only [List.cons_append, qualifiedName, hahead, List.getElem?_cons_zero,
        List.getElem?_cons_succ]
      rw [if_pos htest, hnext t _ _ hsignificant.1, hnext v _ _ hsignificant.2, hvalue.2, hlater,
        List.getLastD_cons, List.length_cons, List.length_cons]
      congr 2
      omega

/-- A class name that no point follows is read whole. -/
theorem typeName_qualified {q : QualifiedName} {tokens rest : List Token} {u : Token}
    (hplain : q.Plain) (htokens : tokens.map Token.sign = q.path)
    (hu : u.isSignificant = true) (hpoint : u.isOp "." = false) (pos : Nat) :
    typeName ⟨tokens ++ u :: rest, pos⟩ =
      .found q.simple ⟨u :: rest, pos + tokens.length⟩ := by
  obtain ⟨t, more, rfl, ht, hmore⟩ := List.map_eq_cons_iff.1 htokens
  have hany : Reads anyIdent [.ident q.first] q.first := reads_anyIdent
  have hname : anyIdent ⟨t :: (more ++ u :: rest), pos⟩ =
      .found q.first ⟨more ++ u :: rest, pos + 1⟩ :=
    hany [t] (more ++ u :: rest) pos (by simp [ht])
  have hcount : q.more.length ≤ (more ++ u :: rest).length := by
    have hlength := congrArg List.length hmore
    simp only [List.length_map, List.length_flatMap, List.length_cons, List.length_nil] at hlength
    simp only [List.length_append, hlength, List.map_const', List.sum_replicate, smul_eq_mul]
    omega
  change Recognizer.andThen anyIdent (fun name c => qualifiedName c.rest.length name c) _ = _
  simp only [List.cons_append, Recognizer.andThen, hname]
  rw [qualifiedName_parts hplain hmore hu hpoint hcount, List.length_cons]
  congr 2
  omega

theorem reads_typeArgument {q : QualifiedName} (hplain : q.Plain) :
    Reads typeArgument (.op "<" :: (q.path ++ [.op ">"])) q.simple := by
  have hclose : Reads (op ">" >>= fun _ => pure q.simple) [.op ">"] q.simple :=
    reads_op.step (reads_pure _)
  refine reads_op.step fun tokens rest pos htokens => ?_
  obtain ⟨name, tail, rfl, hname, htail⟩ := List.map_eq_append_iff.1 htokens
  obtain ⟨u, after, rfl, hu, hafter⟩ := List.map_eq_cons_iff.1 htail
  obtain rfl := List.map_eq_nil_iff.1 hafter
  have hpoint : u.isOp "." = false := by
    rw [isOp_of_sign hu]
    decide
  have htype : typeName ⟨name ++ u :: rest, pos⟩ =
      .found q.simple ⟨u :: rest, pos + name.length⟩ :=
    typeName_qualified hplain hname (by rw [isSignificant_eq, hu]; rfl) hpoint pos
  have hread := hclose [u] rest (pos + name.length) (by simp [hu])
  change Recognizer.andThen typeName _ _ = _
  rw [List.append_assoc, Recognizer.andThen]
  simp only [List.cons_append, List.nil_append, htype]
  rw [List.length_append, ← Nat.add_assoc]
  exact hread

/-- The signs of a class name between angle brackets, if there is one. -/
def typeSigns : Option QualifiedName → List Sign
  | none => []
  | some q => .op "<" :: (q.path ++ [.op ">"])

/-- The signs of a registration up to its body. -/
def registrationSigns (type : Option QualifiedName) (name : String) : List Sign :=
  .ident "tasks" :: .op "." :: .ident "register" ::
    (typeSigns type ++ Sign.op "(" :: ([Sign.string name] ++ Sign.op ")" :: []))

/-- The header of a registration is read as the name of the task and its class. -/
theorem reads_registration {type : Option QualifiedName} (hplain : ∀ q ∈ type, q.Plain)
    (name : String) :
    Reads registerCall (registrationSigns type name) ⟨name, type.map QualifiedName.simple⟩ := by
  have harguments : ∀ inside : List Token, inside.map Token.sign = [.string name] →
      ∃ t, splitArguments inside = [[t]] ∧ (t.kind == .string) = true ∧ t.value = name := by
    intro inside hinside
    obtain ⟨t, hsplit, ht⟩ := splitArguments_string hinside
    obtain ⟨hkind, hvalue⟩ := Prod.ext_iff.1 ht
    simp only [Token.sign, Sign.string] at hkind hvalue
    exact ⟨t, hsplit, by simp [hkind], hvalue⟩
  refine reads_ident.step (reads_op.step (reads_anyIdent.step ?_))
  refine (reads_require rfl).pass ?_
  cases type with
  | none =>
      have hmiss : Misses typeArgument (.op "(" :: ([.string name] ++ .op ")" :: [])) :=
        Misses.bind ((misses_op rfl (by decide)).cons _)
      refine hmiss.optional_bind (reads_group_bind rfl (.plain rfl .nil) fun inside hinside => ?_)
      obtain ⟨t, hsplit, hkind, rfl⟩ := harguments inside hinside
      rw [hsplit]
      exact (reads_require hkind).pass (reads_pure _)
  | some q =>
      refine (reads_typeArgument (hplain q rfl)).optional.bind
        (reads_group_bind rfl (.plain rfl .nil) fun inside hinside => ?_)
      obtain ⟨t, hsplit, hkind, rfl⟩ := harguments inside hinside
      rw [hsplit]
      exact (reads_require hkind).pass (reads_pure _)

/-- The header of a task is read as its registration. -/
theorem reads_registerCall (className : Option String) (name : String) :
    Reads registerCall (headerSigns className name) ⟨name, className⟩ := by
  cases className with
  | none => exact @reads_registration none nofun name
  | some c =>
      have hplain : ∀ q ∈ some (QualifiedName.mk c []), q.Plain := by simp [QualifiedName.Plain]
      exact reads_registration hplain name

theorem registration_of_reads {header : Registration} (h : Reads registerCall signs header)
    (htokens : tokens.map Token.sign = signs) (rest : List Token) (pos : Nat) :
    registration ⟨tokens ++ rest, pos⟩ = .found header ⟨rest, pos + tokens.length⟩ := by
  have hread : Reads (registerCall <|> delegatedValue) signs header := h.orElse
  rw [registration, hread tokens rest pos htokens]

/-- Tokens that no way to register a task fits are no registration. -/
theorem registration_of_misses (h : MissesAll registerCall signs)
    (h' : MissesAll delegatedValue signs) (htokens : tokens.map Token.sign = signs) :
    registration ⟨tokens, 0⟩ = .absent := by
  have hmiss := h.orElse h' tokens 0 htokens
  rw [registration, hmiss]

end Registrations

section HeaderTexts

/-- The header of a task with a class is written. -/
theorem written_typedHeader {c : String} (hc : isIdentifier c.toList = true) (name : String) :
    Written ("tasks.register<" ++ c ++ ">(" ++ quote name ++ ")") (headerSigns (some c) name) := by
  refine ⟨[.word "tasks", .operator ".", .word "register", .operator "<", .word c, .operator ">",
    .operator "(", .literal name, .operator ")"], ⟨?_, ?_, ?_⟩, rfl⟩
  · simp [quote, Piece.chars]
  · have htasks : isIdentifier "tasks".toList = true := by decide
    have hregister : isIdentifier "register".toList = true := by decide
    simpa [Piece.WellFormed, operators_eq, hc] using And.intro htasks hregister
  · simp [Piece.joins, Piece.endsOperator, operators_eq, List.isPrefixOf]

theorem written_header (n : Node) :
    Written (registrationHeader n) (headerSigns n.kind.scriptClass? n.identifier) := by
  rw [registrationHeader]
  cases hclass : n.kind.scriptClass? with
  | none =>
      have htasks : Expression "tasks" [.ident "tasks"] := expression_word (by decide)
      have hregister : Expression ("register" ++ "(" ++ quote n.identifier ++ ")")
          (call "register" [.string n.identifier]) :=
        expression_call (by decide) (written_quote _)
      exact (htasks.append "." rfl hregister).written.of_eq (by simp) rfl
  | some c =>
      have hc : isIdentifier c.toList = true := by
        cases hkind : n.kind <;> rw [hkind] at hclass <;> cases hclass <;> decide
      exact (written_typedHeader hc _).of_eq (by simp) rfl

/-- The line that opens the block of a task is written. -/
theorem written_opening (n : Node) : Written (registrationHeader n ++ " \x7b")
    (headerSigns n.kind.scriptClass? n.identifier ++ [Sign.op "\x7b"]) := by
  have hopen : Written "\x7b" [.op "\x7b"] := written_mark _ (by simp [operators_eq]) (by simp)
  exact ((written_header n).append_blank hopen).of_eq (by simp) rfl

end HeaderTexts

section Stubs

variable {n : Node}

/-- The words of the comment that stands for the block of a task. -/
def stubText (n : Node) : String := registrationHeader n ++ " \x7b ... \x7d"

/-- What the words of a stub are scanned to behind the header. -/
def stubBody : List Sign := [.op "\x7b", .op "..", .op ".", .op "\x7d"]

theorem written_stub (n : Node) : Written (stubText n)
    (headerSigns n.kind.scriptClass? n.identifier ++ stubBody) := by
  have hdots : Written "..." [.op "..", .op "."] := by
    refine ⟨[.operator "..", .operator "."], ⟨rfl, ?_, ?_⟩, rfl⟩
    · simp [Piece.WellFormed, operators_eq]
    · simp [Piece.isFinal]
  have hclose : Written "\x7d" [.op "\x7d"] := written_mark _ (by simp [operators_eq]) (by simp)
  exact (((written_opening n).append_blank hdots).append_blank hclose).of_eq (by simp [stubText])
    (by simp [stubBody])

/-- The block that is read from the stub of a task. -/
def stubBlock (n : Node) (line : Nat) : Block where
  name := n.identifier
  kind := kindOfClass n.kind.scriptClass?
  line := line
  enabled := false

/-- The stub of a task is read as a task that is switched off. -/
theorem readStub_eq {t : Token} (ht : t.value = stubText n) (f : Findings) :
    readStub t f = { f with blocks := f.blocks ++ [stubBlock n t.line] } := by
  obtain ⟨tokens, htokens, hscan⟩ := (written_stub n).scans.whole
  obtain ⟨header, body, rfl, hheader, hbody⟩ := List.map_eq_append_iff.1 htokens.signs
  have hread : registration ⟨(scan t.value).tokens, 0⟩ =
      .found ⟨n.identifier, n.kind.scriptClass?⟩ ⟨body, 0 + header.length⟩ := by
    rw [ht, scan, hscan]
    exact registration_of_reads (reads_registerCall _ _) hheader body 0
  have hopen : ((⟨body, 0 + header.length⟩ : Cursor).peek 0).any (·.isOp "\x7b") = true := by
    obtain ⟨u, rest, rfl, hu, -⟩ := List.map_eq_cons_iff.1 hbody
    have hsignificant : u.isSignificant = true := by rw [isSignificant_eq, hu]; rfl
    simp [Cursor.peek, List.filter_cons_of_pos hsignificant, isOp_of_sign hu]
  rw [readStub, hread]
  simp only [hopen, if_true, stubBlock]

/-- The header of a task is one line. -/
theorem registrationHeader_chars (n : Node) :
    ∃ tail, (registrationHeader n).toList = 't' :: tail ∧ '\n' ∉ tail := by
  rw [registrationHeader]
  have hname : '\n' ∉ (quote n.identifier).toList := fun h => newline_not_mem_quote _ _ h rfl
  cases hclass : n.kind.scriptClass? with
  | none =>
      refine ⟨("asks.register(" ++ quote n.identifier ++ ")").toList, ?_, ?_⟩
      · simp
      · simp [hname]
  | some c =>
      have hc : '\n' ∉ c.toList := by
        cases hkind : n.kind <;> rw [hkind] at hclass <;> cases hclass <;> decide
      refine ⟨("asks.register<" ++ c ++ ">(" ++ quote n.identifier ++ ")").toList, ?_, ?_⟩
      · simp
      · simp [hname, hc]

/-- The comment of a stub holds its words. -/
theorem scans_stub (n : Node) :
    Scans ("// " ++ stubText n).toList [.comment (stubText n)] := by
  obtain ⟨tail, htail, hlines⟩ := registrationHeader_chars n
  have hchars : (stubText n).toList =
      't' :: (tail ++ [' ', '\x7b', ' ', '.', '.', '.', ' ']) ++ ['\x7d'] := by
    simp [stubText, htail]
  -- the text of a stub begins and ends with no blank, so it is the text of its comment
  have htrim : Text.trimChars (' ' :: (stubText n).toList) = (stubText n).toList := by
    rw [Text.trimChars, Text.dropStart, List.dropWhile_cons_of_pos (by decide), hchars,
      List.cons_append, List.dropWhile_cons_of_neg (by decide), ← List.cons_append,
      Text.drop_end_concat (by decide)]
  have hcomment := @scans_comment (' ' :: (stubText n).toList) (by
    rw [hchars]
    rintro x hx rfl
    simp [hlines] at hx)
  rw [htrim, String.ofList_toList] at hcomment
  have htext : ("// " ++ stubText n).toList = '/' :: '/' :: ' ' :: (stubText n).toList := by simp
  rwa [htext]

/-- The words of a stub announce no other one. -/
theorem stubText_ne_disabledMarker (n : Node) : stubText n ≠ disabledMarker := by
  obtain ⟨tail, htail, -⟩ := registrationHeader_chars n
  intro heq
  have hhead := congrArg (fun s : String => s.toList.head?) heq
  simp [stubText, htail, disabledMarker] at hhead

end Stubs

section Declarations

/-- The signs of the declaration of a variable. -/
def declarationSigns (name default : String) : List Sign :=
  .ident "val" :: .ident name :: .op ":" :: .ident "String" :: .op "=" :: lookupSigns name default

theorem reads_variableDeclaration (name default : String) :
    Reads variableDeclaration (declarationSigns name default) (name, default) := by
  have hdefault : Reads declaredDefault (.op "=" :: lookupSigns name default) default := by
    refine Reads.orElse (reads_op.step (Reads.orElse (reads_path_pair.bind ?_)))
    refine (reads_stringIn rfl).bind (reads_op.step (reads_ident.step ?_))
    exact reads_ops.bind (reads_op.step reads_string)
  refine reads_ident.step (reads_anyIdent.step (reads_op.step (reads_ident.step ?_)))
  exact hdefault.last (reads_pure _)

/-- What stands behind the name in a declaration goes on over no line break. -/
theorem inline_declared (name default : String) :
    Inline (.op ":" :: .ident "String" :: .op "=" :: lookupSigns name default) := by
  have hfind : Inline (call "findProperty" [.string name]) :=
    (isStatement_call _ (.plain rfl .nil)).inline
  have htext : Inline (call "toString" []) := (isStatement_call _ .nil).inline
  have hlookup : Inline (lookupSigns name default) := .plain rfl (.plain rfl (hfind.append
    (.plain rfl (htext.append (.plain rfl (.plain rfl .nil))))))
  exact .plain rfl (.plain rfl (.plain rfl hlookup))

theorem declared_ends (name default : String) :
    ∀ s ∈ (Sign.op ":" :: .ident "String" :: .op "=" :: lookupSigns name default).getLast?,
      s.carriesOn = false := by
  intro s hs
  have hlast : (Sign.op ":" :: .ident "String" :: .op "=" :: lookupSigns name default).getLast? =
      some (.string default) := by
    simp [lookupSigns, call]
  obtain rfl := Option.some.inj (hlast.symm.trans hs)
  rfl

theorem isStatement_declaration (name default : String) :
    IsStatement (declarationSigns name default) where
  inline := .plain rfl (.plain rfl (inline_declared name default))
  starts := ⟨_, _, rfl⟩
  ends := ends_cons (ends_cons (declared_ends name default) (by simp)) (by simp)

/-- A declaration is no registration. -/
theorem registration_declaration (htokens : tokens.map Token.sign = declarationSigns name default) :
    registration ⟨tokens, 0⟩ = .absent := by
  refine registration_of_misses (Misses.all ?_) (Misses.all ?_) htokens
  · exact Misses.bind ((misses_ident rfl (by decide)).cons _)
  · refine reads_ident.misses_step (reads_anyIdent.misses_step ?_)
    have hby : ∀ more, Misses (ident "by") (.op ":" :: more) := fun more =>
      (misses_ident rfl (by decide)).cons more
    by_cases hname : (name != "") = true
    · exact (reads_require hname).misses_pass (hby _).bind
    · exact Misses.bind (misses_require (by simpa using hname))

/-- Tokens that declare no variable leave what was found as it is. -/
theorem readVariable_of_misses (h : MissesAll variableDeclaration signs)
    (htokens : tokens.map Token.sign = signs) (f : Findings) : readVariable tokens f = f := by
  rw [readVariable, h tokens 0 htokens]

/-- A statement that starts with neither of two words is no registration and no declaration. -/
theorem registration_other (hs : s.isSignificant = true) (htasks : s ≠ .ident "tasks")
    (hval : s ≠ .ident "val") (htokens : tokens.map Token.sign = s :: signs) (f : Findings) :
    registration ⟨tokens, 0⟩ = .absent ∧ readVariable tokens f = f := by
  have hword : ∀ other, s ≠ .ident other → Misses (ident other) (s :: signs) := fun other h =>
    (misses_ident hs h).cons _
  refine ⟨registration_of_misses (hword _ htasks).bind.all (hword _ hval).bind.all htokens, ?_⟩
  exact readVariable_of_misses (hword _ hval).bind.all htokens f

/-- A name behind `val` alone is no registration and no declaration. -/
theorem registration_bare (htokens : tokens.map Token.sign = [.ident "val", .ident name])
    (f : Findings) : registration ⟨tokens, 0⟩ = .absent ∧ readVariable tokens f = f := by
  refine ⟨registration_of_misses ?_ ?_ htokens, ?_⟩
  · exact (Misses.bind ((misses_ident rfl (by decide)).cons _)).all
  · refine reads_ident.misses_all_step (reads_anyIdent.misses_all_step ?_)
    by_cases hname : (name != "") = true
    · exact (reads_require hname).misses_all missesAll_ident.bind
    · exact (Misses.bind (misses_require (by simpa using hname))).all
  · refine readVariable_of_misses ?_ htokens f
    exact reads_ident.misses_all_step (reads_anyIdent.misses_all_step missesAll_op.bind)

end Declarations

end BuildGraph.Script
