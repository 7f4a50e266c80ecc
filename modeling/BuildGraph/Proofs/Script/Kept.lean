import BuildGraph.Proofs.Script.Joined
import BuildGraph.Proofs.Script.Nodes
import BuildGraph.Proofs.Script.Restart
import BuildGraph.Proofs.Script.Stops

/-!
# Blocks that damage does not hide

A registration with paired delimiters becomes a task of the graph, whatever stands on the lines
above it: damaged lines are passed over, and reading starts again at the registration. What was
found is never lost. `registration_kept` is the statement.
-/

namespace BuildGraph.Script

open Recognizer BuildGraph.Number BuildGraph.Text

variable {text : String} {f found : Findings} {header : Registration}
  {body ts tokens rest : List Token} {line : Nat} {comment : Option String} {name : String}
  {type : Option QualifiedName}

section Blocks

/-- The task of a registration with a paired body becomes a block. -/
theorem readBlock_adds (hbody : Paired body)
    (hread : readBlock text header body line f = .ok found) :
    ∃ b, b.name = header.name ∧ found.blocks = f.blocks ++ [b] := by
  obtain ⟨statements, hsplit⟩ := hbody.split
  have hkept := returns_readBody (T := fun _ => True) text (f.vars.map Variable.name)
    (b := { name := header.name, kind := kindOfClass header.className, line })
    (fun tokens (_ : tokens ∈ statements) _ _ => trivial) (List.forall_mem_nil _)
  rw [readBlock, hsplit] at hread
  dsimp only at hread
  split at hread
  · cases hread
  · next b warnings hb =>
      rw [hb] at hkept
      split at hread
      · cases hread
      · next b' hrequest =>
          cases hread
          exact ⟨b', (recoverRequest_name hrequest).trans hkept.1, rfl⟩

theorem readBlock_keeps (hread : readBlock text header body line f = .ok found) :
    f.blocks <+: found.blocks := by
  rw [readBlock] at hread
  split at hread
  · cases hread
    exact List.prefix_refl _
  · dsimp only at hread
    split at hread
    · cases hread
    · split at hread
      · cases hread
      · cases hread
        exact List.prefix_append _ _

theorem readVariable_blocks (ts : List Token) (f : Findings) :
    (readVariable ts f).blocks = f.blocks := by
  rw [readVariable]
  split
  · dsimp only
    split_ifs <;> rfl
  · rfl

theorem readStub_keeps (t : Token) (f : Findings) : f.blocks <+: (readStub t f).blocks := by
  rw [readStub]
  split
  · split_ifs
    · exact List.prefix_append _ _
    · exact List.prefix_refl _
  · exact List.prefix_refl _

theorem passOver_blocks (cause : Unbalanced) (t : Token) (rest : List Token) (f : Findings) :
    (passOver cause t rest f).1.blocks = f.blocks := by
  rw [passOver]
  split <;> rfl

/-- Blocks that were found are never lost. -/
theorem readTokens_keeps {skip : Nat}
    (hread : readTokens text skip comment f ts = .ok found) : f.blocks <+: found.blocks := by
  induction ts generalizing skip comment f with
  | nil =>
      cases hread
      exact List.prefix_refl _
  | cons t rest ih =>
      cases skip with
      | succ more => exact ih hread
      | zero =>
          rw [readTokens] at hread
          dsimp only at hread
          split_ifs at hread
          · exact ih hread
          · exact (readStub_keeps t f).trans (ih hread)
          · exact ih hread
          · split at hread
            · split at hread
              · next f' hstatement =>
                  refine List.IsPrefix.trans ?_ (ih hread)
                  rw [readTopStatement] at hstatement
                  split at hstatement
                  · exact readBlock_keeps hstatement
                  · cases hstatement
                    rw [readVariable_blocks]
              · cases hread
            · have hkept := ih hread
              rwa [passOver_blocks] at hkept

end Blocks

section Registrations

/-- Nothing in the header of a registration ends a statement. -/
theorem inline_registration (type : Option QualifiedName) (name : String) :
    Inline (registrationSigns type name) := by
  have hparts : ∀ parts : List String,
      Inline (parts.flatMap fun part => [Sign.op ".", Sign.ident part]) := by
    intro parts
    induction parts with
    | nil => exact .nil
    | cons part parts ih => exact .plain rfl (.plain rfl ih)
  have htype : Inline (typeSigns type) := by
    cases type with
    | none => exact .nil
    | some q =>
        have hpath : Inline q.path := .plain rfl (hparts q.more)
        exact .plain rfl (hpath.append (.plain rfl .nil))
  exact .plain rfl (.plain rfl (.plain rfl (htype.append (.group rfl (.plain rfl .nil) .nil))))

/-- A registration that is read adds its task. -/
theorem readTopStatement_adds (hplain : ∀ q ∈ type, q.Plain)
    (htokens : tokens.map Token.sign = registrationSigns type name)
    (hread : readTopStatement text (tokens ++ rest) line f = .ok found) :
    ∃ b, b.name = name ∧ found.blocks = f.blocks ++ [b] := by
  rw [readTopStatement, registration_of_reads (reads_registration hplain name) htokens] at hread
  refine readBlock_adds ?_ hread
  split
  · next inner after hgroup => exact (group_span rfl hgroup).2
  · exact paired_nil

/-- Where reading comes to a registration with paired delimiters, a block of its name is found. -/
theorem readTokens_finds (hplain : ∀ q ∈ type, q.Plain)
    (htokens : tokens.map Token.sign = registrationSigns type name)
    (hpaired : Paired (tokens ++ rest))
    (hread : readTokens text 0 comment f (tokens ++ rest) = .ok found) :
    ∃ b ∈ found.blocks, b.name = name := by
  obtain ⟨n, hn⟩ := hpaired.statementLength none 0
  have hle : tokens.length ≤ n := by
    rw [statementLength_append (inline_registration type name) htokens, Nat.zero_add] at hn
    exact (openAfter_of_statementLength hn).1
  have htake : (tokens ++ rest).take n = tokens ++ rest.take (n - tokens.length) := by
    rw [List.take_append, List.take_of_length_le hle]
  obtain ⟨t, more, rfl, ht, -⟩ := List.map_eq_cons_iff.1 htokens
  have hkind : t.kind = .ident := congrArg Prod.fst ht
  rw [List.cons_append] at hread hn htake
  rw [readTokens] at hread
  simp only [hkind, Token.isOp, hn, reduceCtorEq, beq_iff_eq, Bool.or_eq_true, Bool.and_eq_true,
    false_and, or_self, if_false] at hread
  split at hread
  · next f' hstatement =>
      rw [htake] at hstatement
      obtain ⟨b, hb, hblocks⟩ := readTopStatement_adds hplain htokens hstatement
      refine ⟨b, (readTokens_keeps hread).subset ?_, hb⟩
      rw [hblocks]
      exact List.mem_append_right _ (List.mem_singleton_self b)
  · cases hread

/-- The text has no lexical faults, and no operator at its end carries it on to the next line. -/
structure EndsCleanly (text : String) : Prop where
  faults : (scan text).faults = []
  ends : ∀ t ∈ ((scan text).tokens.filter Token.isSignificant).getLast?, t.sign.carriesOn = false

/-- The text is the registration of a task with a body, and its delimiters pair up. -/
structure IsRegistration (text : String) (type : Option QualifiedName) (name : String) : Prop where
  signs : ∃ body, (scan text).tokens.map Token.sign =
    registrationSigns type name ++ .op "\x7b" :: (body ++ [.op "\x7d"])
  paired : Paired (scan text).tokens

/-- A registration on the lines below a text becomes a task, however the delimiters of the text are
broken, if no part of its class behind a point reads as the end of a class literal. -/
theorem registration_kept {broken good : String} {ids : IdGenerator} {r : ScriptReading}
    (hbroken : EndsCleanly broken) (hgood : IsRegistration good type name)
    (hplain : ∀ q ∈ type, q.Plain) (hname : isBlankText name = false)
    (hread : readScript (broken ++ "\n" ++ good) ids = .ok r) :
    ∃ n ∈ r.graph.nodes, n.identifier = toIdentifier name := by
  obtain ⟨body, hsigns⟩ := hgood.signs
  -- the registration starts with a word, below the line break as by itself
  have hstarts : ∀ {ts : List Token}, ts.map Token.sign = (scan good).tokens.map Token.sign →
      ∃ t rest, ts = t :: rest ∧ t.kind = .ident := fun hts => by
    obtain ⟨t, rest, htokens, ht, -⟩ := List.map_eq_cons_iff.1 (hts.trans hsigns)
    exact ⟨t, rest, htokens, congrArg Prod.fst ht⟩
  have hfirst : ∀ t ∈ (scan good).tokens.head?, t.kind ≠ .newline := by
    obtain ⟨t, rest, htokens, hkind⟩ := hstarts rfl
    simp [htokens, hkind]
  obtain ⟨above, br, below, hscan, habove, hbreaks, hbelow⟩ := scan_joined hbroken.faults hfirst
  have hparted : Parted above br below :=
    ⟨habove ▸ hbroken.ends, hbreaks, hstarts hbelow, paired_signs hbelow.symm hgood.paired⟩
  obtain ⟨found, hfound, hr⟩ := bind_eq_ok_iff.1 hread
  cases hr
  rw [hscan] at hfound
  obtain ⟨comment, f, hrestart⟩ := readTokens_restarts hparted (Nat.zero_le _) hfound
  obtain ⟨header, rest, rfl, hheader, -⟩ := List.map_eq_append_iff.1 (hbelow.trans hsigns)
  obtain ⟨b, hb, rfl⟩ := readTokens_finds hplain hheader hparted.paired hrestart
  exact assemble_named hb hname

/-- Below a block that is never closed, a registration with a qualified class becomes a task. -/
theorem registration_kept_below_open_brace :
    ∃ r, readScript ("tasks.register(\"a\") \x7b" ++ "\n" ++
        "tasks.register<com.example.Report>(\"n\") \x7b group = \"docs\" \x7d") {} = .ok r ∧
      ∃ n ∈ r.graph.nodes, n.identifier = toIdentifier "n" := by
  have hok : (readScript ("tasks.register(\"a\") \x7b" ++ "\n" ++
      "tasks.register<com.example.Report>(\"n\") \x7b group = \"docs\" \x7d") {}).isOk = true := by
    decide +kernel
  have hgood : IsRegistration
      "tasks.register<com.example.Report>(\"n\") \x7b group = \"docs\" \x7d"
      (some ⟨"com", ["example", "Report"]⟩) "n" :=
    ⟨⟨[.ident "group", .op "=", .string "docs"], by decide +kernel⟩, by decide +kernel⟩
  cases hread : readScript _ _ with
  | error stop =>
      rw [hread] at hok
      cases hok
  | ok r =>
      exact ⟨r, rfl, registration_kept ⟨by decide +kernel, by decide +kernel⟩ hgood
        (by simp [QualifiedName.Plain]) (by decide +kernel) hread⟩

/-- A registration stays hidden when a package of its class is called `java`: the name of the class
is read no further, so the header is none, and nothing reports it. -/
theorem registration_hidden_by_java_package :
    EndsCleanly "tasks.register(\"a\") \x7b \x7d" ∧
      IsRegistration "tasks.register<com.example.java.Report>(\"n\") \x7b \x7d"
        (some ⟨"com", ["example", "java", "Report"]⟩) "n" ∧
      (scan "tasks.register<com.example.java.Report>(\"n\") \x7b \x7d").faults = [] ∧
      isBlankText "n" = false ∧
      (readScript ("tasks.register(\"a\") \x7b \x7d" ++ "\n" ++
          "tasks.register<com.example.java.Report>(\"n\") \x7b \x7d") {}).map
        (fun r => (r.graph.nodes.map Node.identifier, r.errors, r.warnings)) =
          .ok (["a"], [], []) := by
  refine ⟨⟨?_, ?_⟩, ⟨⟨[], ?_⟩, ?_⟩, ?_, ?_, ?_⟩ <;> decide +kernel

end Registrations

end BuildGraph.Script
