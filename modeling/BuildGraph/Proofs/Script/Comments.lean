import BuildGraph.Proofs.Script.Sections

/-!
# Comments over several lines

A script has a comment over several lines at its head and above every task with a description. Such
a comment adds nothing as long as what it holds neither opens nor ends one. The texts of users come
in there: a description is written so that it ends no comment, but it may open one, and the name of
a project may do both.
-/

namespace BuildGraph.Script

open BuildGraph.Text

variable {cs : List Char} {inner : List String} {options : ExportOptions} {n : Node}

section Quiet

/-- A text is quiet when the marks that open and end comments do not occur in it. -/
theorem isChain_quiet_iff :
    cs.IsChain Quiet ↔ ¬ "/*".toList <:+: cs ∧ ¬ "*/".toList <:+: cs := by
  rw [List.isChain_iff_forall_rel_of_append_cons_cons]
  constructor
  · intro h
    refine ⟨?_, ?_⟩
    · rintro ⟨front, back, rfl⟩
      exact (@h '/' '*' front back (by simp)).1 ⟨rfl, rfl⟩
    · rintro ⟨front, back, rfl⟩
      exact (@h '*' '/' front back (by simp)).2 ⟨rfl, rfl⟩
  · rintro ⟨hopens, hends⟩ a b front back rfl
    refine ⟨?_, ?_⟩
    · rintro ⟨rfl, rfl⟩
      exact hopens ⟨front, back, by simp⟩
    · rintro ⟨rfl, rfl⟩
      exact hends ⟨front, back, by simp⟩

theorem head?_breakCommentEnds (cs : List Char) : (breakCommentEnds cs).head? = cs.head? := by
  induction cs using breakCommentEnds.induct with
  | case1 rest _ => rfl
  | case2 c rest hpair _ => rw [breakCommentEnds.eq_2 _ _ hpair, List.head?_cons, List.head?_cons]
  | case3 => rfl

/-- A text that opens no comment is made quiet. -/
theorem quiet_breakCommentEnds (h : ¬ "/*".toList <:+: cs) :
    (breakCommentEnds cs).IsChain Quiet := by
  have hslash : ∀ {rest : List Char}, ¬ "/*".toList <:+: '/' :: rest →
      ∀ y ∈ (breakCommentEnds rest).head?, Quiet '/' y := by
    intro rest hopens y hy
    rw [head?_breakCommentEnds] at hy
    obtain ⟨more, rfl⟩ := List.head?_eq_some_iff.1 hy
    refine ⟨?_, by simp⟩
    rintro ⟨-, rfl⟩
    exact hopens ⟨[], more, rfl⟩
  induction cs using breakCommentEnds.induct with
  | case1 rest ih =>
      have hrest : ¬ "/*".toList <:+: '/' :: rest := fun hoccurs =>
        h (hoccurs.trans (List.suffix_cons _ _).isInfix)
      have hquiet := ih fun hoccurs => hrest (hoccurs.trans (List.suffix_cons _ _).isInfix)
      rw [breakCommentEnds, List.isChain_cons_cons, List.isChain_cons_cons, List.isChain_cons]
      exact ⟨by simp [Quiet], by simp [Quiet], hslash hrest, hquiet⟩
  | case2 c rest hpair ih =>
      have hquiet := ih fun hoccurs => h (hoccurs.trans (List.suffix_cons _ _).isInfix)
      rw [breakCommentEnds.eq_2 _ _ hpair, List.isChain_cons]
      refine ⟨fun y hy => ?_, hquiet⟩
      by_cases hc : c = '/'
      · subst hc
        exact hslash h y hy
      · refine ⟨fun hopens => hc hopens.1, ?_⟩
        rintro ⟨rfl, rfl⟩
        rw [head?_breakCommentEnds] at hy
        obtain ⟨more, rfl⟩ := List.head?_eq_some_iff.1 hy
        exact hpair more rfl rfl
  | case3 => exact .nil

/-- The lines of a text occur in it. -/
theorem infix_of_mem_linesFrom {line piece : List Char} (h : piece ∈ linesFrom line cs) :
    piece <:+: line.reverse ++ cs := by
  induction line, cs using linesFrom.induct with
  | case1 line hempty =>
      rw [linesFrom, if_pos hempty] at h
      cases h
  | case2 line hline =>
      rw [linesFrom, if_neg hline] at h
      rw [List.mem_singleton.1 h, List.append_nil]
  | case3 line rest ih =>
      rw [linesFrom] at h
      rcases List.mem_cons.1 h with rfl | h
      · exact (List.prefix_append _ _).isInfix
      · exact (ih h).trans ⟨line.reverse ++ ['\r', '\n'], [], by simp⟩
  | case4 line c rest hpair hbreak ih =>
      rw [linesFrom.eq_3 _ _ _ hpair, if_pos hbreak] at h
      rcases List.mem_cons.1 h with rfl | h
      · exact (List.prefix_append _ _).isInfix
      · exact (ih h).trans ⟨line.reverse ++ [c], [], by simp⟩
  | case5 line c rest hpair hbreak ih =>
      rw [linesFrom.eq_3 _ _ _ hpair, if_neg hbreak] at h
      simpa using ih h

theorem drop_end_isPrefix (p : Char → Bool) (cs : List Char) : dropEnd p cs <+: cs := by
  induction cs with
  | nil => exact List.prefix_rfl
  | cons c cs ih =>
      rw [drop_end_cons]
      split
      · exact List.nil_prefix
      · exact (List.prefix_cons_inj c).2 ih

end Quiet

section Rows

/-- The lines of a comment, between the marks that open and end it, as one row. -/
def commentRow (inner : List String) : List Char :=
  '/' :: '*' :: ('*' :: inner.flatMap (fun l => '\n' :: l.toList) ++ ['\n', ' ']) ++ ['*', '/']

theorem textOf_comment (inner : List String) :
    textOf ("/**" :: (inner ++ [" */"])) = commentRow inner ++ ['\n'] := by
  have hbreaks : '\n' :: inner.flatMap (fun l => l.toList ++ ['\n']) =
      inner.flatMap (fun l => '\n' :: l.toList) ++ ['\n'] := by
    induction inner with
    | nil => rfl
    | cons l inner ih => simp [← ih]
  have hall := congrArg (fun cs => '/' :: '*' :: '*' :: (cs ++ " */\n".toList)) hbreaks
  simpa [textOf, commentRow] using hall

/-- A comment of quiet lines adds nothing. -/
theorem section_comment (h : ∀ l ∈ inner, l.toList.IsChain Quiet) :
    Section ("/**" :: (inner ++ [" */"])) .ok := by
  have hlines : (inner.flatMap (fun l => '\n' :: l.toList) ++ ['\n', ' ', '*']).IsChain Quiet := by
    induction inner with
    | nil => simp [Quiet]
    | cons l inner ih =>
        obtain ⟨hl, hinner⟩ := List.forall_mem_cons.1 h
        obtain ⟨tail, htail⟩ : ∃ tail, inner.flatMap (fun l => '\n' :: l.toList) ++
            ['\n', ' ', '*'] = '\n' :: tail := by
          cases inner <;> exact ⟨_, rfl⟩
        have hrest := ih hinner
        rw [htail] at hrest
        rw [List.flatMap_cons, List.append_assoc, htail, List.cons_append, List.isChain_cons,
          List.isChain_append]
        exact ⟨by simp [Quiet], hl, hrest, by simp [Quiet]⟩
  have hwords : ('*' :: inner.flatMap (fun l => '\n' :: l.toList) ++ ['\n', ' '] ++ ['*']).IsChain
      Quiet := by
    rw [List.cons_append, List.cons_append, List.append_assoc, List.isChain_cons]
    refine ⟨?_, hlines⟩
    cases inner <;> simp [Quiet]
  refine ⟨[commentRow inner], [[]], ?_, .cons (scans_block_comment hwords) .nil, finds_nil⟩
  rw [textOf_comment, List.flatMap_singleton]

end Rows

section Header

/-- No character of the text is a slash. -/
def Slashless (s : String) : Prop := '/' ∉ s.toList

/-- Without slashes comments are neither opened nor ended. -/
theorem Slashless.quiet {s : String} (h : Slashless s) : s.toList.IsChain Quiet := by
  refine (List.pairwise_of_forall_mem_list fun x hx y hy => ?_).isChain
  refine ⟨fun hxy => ?_, fun hxy => ?_⟩
  · exact h (hxy.1 ▸ hx)
  · exact h (hxy.2 ▸ hy)

theorem Slashless.append {s t : String} (hs : Slashless s) (ht : Slashless t) :
    Slashless (s ++ t) := by
  simp only [Slashless, String.toList_append, List.mem_append, not_or] at *
  exact ⟨hs, ht⟩

theorem slashless_padded (width n : Nat) : Slashless (Timestamp.padded width n) := by
  intro h
  rw [Timestamp.padded, Text.padLeft, String.toList_ofList, List.mem_append,
    List.mem_replicate] at h
  rcases h with ⟨-, h⟩ | h
  · exact absurd h (by decide)
  · exact absurd (Number.isDigit_of_mem_toString h) (by decide)

theorem slashless_mark : ∀ s ∈ ["-", "T", ":", ".", "+", ""], Slashless s := by
  simp [Slashless]

theorem slashless_clockText (micros : Nat) : Slashless (Timestamp.clockText micros) := by
  have hcolon : Slashless ":" := slashless_mark _ (by simp)
  have hbase : ∀ a b c, Slashless (Timestamp.padded 2 a ++ ":" ++ Timestamp.padded 2 b ++ ":" ++
      Timestamp.padded 2 c) := fun a b c =>
    ((((slashless_padded _ a).append hcolon).append (slashless_padded _ b)).append hcolon).append
      (slashless_padded _ c)
  simp only [Timestamp.clockText]
  split
  · exact hbase _ _ _
  · exact ((hbase _ _ _).append (slashless_mark "." (by simp))).append (slashless_padded _ _)

theorem slashless_offsetText (offset : Int) : Slashless (Timestamp.offsetText offset) := by
  have hcolon : Slashless ":" := slashless_mark _ (by simp)
  have hsign : Slashless (if offset < 0 then "-" else "+") := by
    split
    · exact slashless_mark _ (by simp)
    · exact slashless_mark _ (by simp)
  have hbase : ∀ a b, Slashless ((if offset < 0 then "-" else "+") ++ Timestamp.padded 2 a ++ ":" ++
      Timestamp.padded 2 b) := fun a b =>
    ((hsign.append (slashless_padded _ a)).append hcolon).append (slashless_padded _ b)
  simp only [Timestamp.offsetText]
  generalize (if offset < 0 then "-" else "+") = sign at hbase
  split
  · exact hbase _ _
  · split
    · exact ((hbase _ _).append hcolon).append (slashless_padded _ _)
    · exact ((((hbase _ _).append hcolon).append (slashless_padded _ _)).append
        (slashless_mark "." (by simp))).append (slashless_padded _ _)

/-- A time is written without slashes. -/
theorem slashless_render (t : Timestamp) : Slashless t.render := by
  have hdash : Slashless "-" := slashless_mark _ (by simp)
  have hdate : ∀ a b c, Slashless (Timestamp.padded 4 a ++ "-" ++ Timestamp.padded 2 b ++ "-" ++
      Timestamp.padded 2 c) := fun a b c =>
    ((((slashless_padded _ a).append hdash).append (slashless_padded _ b)).append hdash).append
      (slashless_padded _ c)
  simp only [Timestamp.render]
  refine (((hdate _ _ _).append (slashless_mark "T" (by simp))).append
    (slashless_clockText _)).append ?_
  split
  · exact slashless_mark _ (by simp)
  · exact slashless_offsetText _

/-- The lines of the comment at the head of a script, between its marks. -/
def headerInner (options : ExportOptions) (now : Timestamp) : List String :=
  [" * Generated by Gradle Flow Visual Editor"] ++
    (if options.includeTimestamp then
      [" * Generated on: " ++ (options.timestamp.getD now).render] else []) ++
    optionalLine (" * Project: " ++ ·) options.projectName

theorem headerLines_eq (options : ExportOptions) (now : Timestamp) : headerLines options now =
    if options.includeComments then "/**" :: (headerInner options now ++ [" */"]) ++ [""]
    else [] := by
  simp [headerLines, headerInner]

/-- A line that puts quiet words behind a text without slashes and stars is quiet. -/
theorem quiet_append {front words : String} (hfront : front.toList.IsChain Quiet)
    (hlast : ∀ x ∈ front.toList.getLast?, x ≠ '/' ∧ x ≠ '*')
    (hwords : words.toList.IsChain Quiet) : (front ++ words).toList.IsChain Quiet := by
  rw [String.toList_append, List.isChain_append]
  refine ⟨hfront, hwords, fun x hx y _ => ⟨fun h => ?_, fun h => ?_⟩⟩
  · exact (hlast x hx).1 h.1
  · exact (hlast x hx).2 h.1

/-- The comment at the head is quiet if the name of the project is. -/
theorem quiet_headerInner {now : Timestamp}
    (hproject : ∀ name ∈ options.projectName, name.toList.IsChain Quiet) :
    ∀ l ∈ headerInner options now, l.toList.IsChain Quiet := by
  intro l hl
  rcases List.mem_append.1 hl with hl | hl
  · rcases List.mem_append.1 hl with hl | hl
    · obtain rfl := List.mem_singleton.1 hl
      exact Slashless.quiet (by simp [Slashless])
    · split at hl
      · obtain rfl := List.mem_singleton.1 hl
        have hwords : Slashless " * Generated on: " := by simp [Slashless]
        exact (hwords.append (slashless_render _)).quiet
      · cases hl
  · cases hname : options.projectName with
    | none => simp [optionalLine, hname] at hl
    | some name =>
        rw [hname, optionalLine] at hl
        split at hl
        · cases hl
        · obtain rfl := List.mem_singleton.1 hl
          have hwords : Slashless " * Project: " := by simp [Slashless]
          exact quiet_append hwords.quiet (by simp) (hproject name hname)

/-- The comment at the head adds nothing if the name of the project is quiet. -/
theorem paragraphs_headerLines (options : ExportOptions) (now : Timestamp)
    (hproject : options.includeComments = true →
      ∀ name ∈ options.projectName, name.toList.IsChain Quiet) :
    Paragraphs (headerLines options now) .ok := by
  rw [headerLines_eq]
  split
  · next hcomments =>
      exact .inr ⟨"/**" :: headerInner options now, " */", '/', [' ', '*'], by simp, rfl,
        by decide, section_comment (quiet_headerInner (hproject hcomments))⟩
  · exact .nil

end Header

section Descriptions

/-- The lines above a task that describe it. -/
def descriptionLines (options : ExportOptions) (n : Node) : List String :=
  if options.includeDescriptions then
    match n.description with
    | some d => if d = "" then [] else descriptionComment d
    | none => []
  else []

/-- A description that opens no comment adds nothing. -/
theorem section_descriptionComment {d : String} (h : ¬ "/*".toList <:+: d.toList) :
    Section (descriptionComment d) .ok := by
  refine section_comment fun l hl => ?_
  obtain ⟨piece, hpiece, rfl⟩ := List.mem_map.1 hl
  -- every line of the comment begins with its piece, and every piece occurs in the quiet text
  have hquiet : piece.toList.IsChain Quiet := by
    split at hpiece
    · obtain rfl := List.mem_singleton.1 hpiece
      exact .nil
    · obtain ⟨chars, hchars, rfl⟩ := List.mem_map.1 hpiece
      have hoccurs := infix_of_mem_linesFrom hchars
      rw [List.reverse_nil, List.nil_append, String.toList_ofList] at hoccurs
      rw [String.toList_ofList]
      exact List.IsChain.infix (quiet_breakCommentEnds h) hoccurs
  have hline : (" * " ++ piece).toList.IsChain Quiet :=
    quiet_append (by simp [Quiet]) (by simp) hquiet
  rw [trimRight, String.toList_ofList]
  exact List.IsChain.prefix hline (drop_end_isPrefix _ _)

theorem section_descriptionLines (h : options.includeDescriptions = true →
      ∀ d ∈ n.description, ¬ "/*".toList <:+: d.toList) :
    Section (descriptionLines options n) .ok := by
  rw [descriptionLines]
  split
  · next hdescriptions =>
      split
      · next d hd =>
          split
          · exact section_nil
          · exact section_descriptionComment (h hdescriptions d hd)
      · exact section_nil
  · exact section_nil

end Descriptions

end BuildGraph.Script
