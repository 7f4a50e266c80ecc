import BuildGraph.Proofs.Script.GuardText

/-!
# The text of a block

`Readable` relates the lines inside a block, without indentation, to what reading them does to the
block: every line is a comment or belongs to a statement that is understood. The lines that are
written for a task are readable, kind by kind. `Outcomes` leaves room for statements that stop the
reading, and `Outcomes.read_body` reads lines inside a block.
-/

namespace BuildGraph.Script

open BuildGraph.Number

/-- The lines hold one statement, and reading it changes a block. -/
def Clause (lines : List String) (change : Block → Block) : Prop :=
  ∃ signs : List (List Sign),
    List.Forall₂ (fun line signs => Scans line.toList signs) lines signs ∧
      (∀ s ∈ signs, s ≠ []) ∧ Understood (List.intercalate [.newline] signs) change

/-- Reading the lines changes a block and remarks nothing. -/
inductive Readable : List String → (Block → Block) → Prop
  | nil : Readable [] id
  | remark {words : String} {lines : List String} {change : Block → Block} :
      (∀ x ∈ words.toList, x ≠ '\n') → Readable lines change →
      Readable (("//" ++ words) :: lines) change
  | clause {lines more : List String} {change next : Block → Block} : Clause lines change →
      Readable more next → Readable (lines ++ more) (next ∘ change)

variable {lines more : List String} {change next : Block → Block} {line : String}
  {signs : List Sign} {act act' : Block → Except IntegerStop Block}

theorem Readable.of_eq (h : Readable lines change) (heq : change = next) : Readable lines next :=
  heq ▸ h

/-- A line with a whole statement is a clause. -/
theorem Clause.of_line (h : Written line signs) (hread : Understood signs change) :
    Clause [line] change := by
  refine ⟨[signs], .cons h.scans .nil, ?_, by simpa using hread⟩
  intro s hs
  obtain rfl := List.mem_singleton.1 hs
  obtain ⟨name, tail, rfl⟩ := hread.statement.starts
  simp

theorem Readable.of_line (h : Written line signs) (hread : Understood signs change) :
    Readable [line] change :=
  .clause (Clause.of_line h hread) .nil

theorem Readable.append (h : Readable lines change) (hmore : Readable more next) :
    Readable (lines ++ more) (next ∘ change) := by
  induction h with
  | nil => exact hmore
  | remark hwords _ ih => exact .remark hwords ih
  | clause hclause _ ih =>
      rw [List.append_assoc, ← Function.comp_assoc]
      exact .clause hclause ih

theorem flatMap_newline {signs : List (List Sign)} (h : signs ≠ []) :
    signs.flatMap (· ++ [.newline]) = List.intercalate [.newline] signs ++ [.newline] := by
  induction signs with
  | nil => exact absurd rfl h
  | cons first signs ih =>
      cases signs with
      | nil => simp
      | cons second signs =>
          rw [List.flatMap_cons, ih (by simp), List.intercalate_cons_cons]
          simp

section Outcomes

/-- Reading a statement of the signs acts on a block or stops, and remarks nothing. -/
structure Outcome (signs : List Sign) (act : Block → Except IntegerStop Block) : Prop where
  statement : IsStatement signs
  read : ∀ text declared tokens b, tokens.map Token.sign = signs →
    readStatement tokens (statementReadings text declared) b = (act b).map fun b => (b, [])

theorem Understood.outcome (h : Understood signs change) :
    Outcome signs fun b => .ok (change b) where
  statement := h.statement
  read := h.read

/-- Reading the lines acts on a block or stops, and remarks nothing. -/
inductive Outcomes : List String → (Block → Except IntegerStop Block) → Prop
  | nil : Outcomes [] .ok
  | remark {words : String} {lines : List String} {act : Block → Except IntegerStop Block} :
      (∀ x ∈ words.toList, x ≠ '\n') → Outcomes lines act → Outcomes (("//" ++ words) :: lines) act
  | clause {lines more : List String} {signs : List (List Sign)}
      {act act' : Block → Except IntegerStop Block} :
      List.Forall₂ (fun line signs => Scans line.toList signs) lines signs →
      (∀ s ∈ signs, s ≠ []) → Outcome (List.intercalate [.newline] signs) act →
      Outcomes more act' → Outcomes (lines ++ more) fun b => act b >>= act'

/-- What is understood stops nowhere. -/
theorem Readable.outcomes (h : Readable lines change) : Outcomes lines fun b => .ok (change b) := by
  induction h with
  | nil => exact .nil
  | remark hwords _ ih => exact .remark hwords ih
  | clause hclause _ ih =>
      obtain ⟨signs, hscans, hne, hunderstood⟩ := hclause
      exact .clause hscans hne hunderstood.outcome ih

theorem Outcomes.of_line (h : Written line signs) (hread : Outcome signs act) :
    Outcomes [line] act := by
  have hne : signs ≠ [] := by
    obtain ⟨name, tail, rfl⟩ := hread.statement.starts
    simp
  have hclause : Outcomes ([line] ++ []) fun b => act b >>= .ok :=
    .clause (.cons h.scans .nil) (by simpa using hne) (by simpa using hread) .nil
  exact (funext fun b => bind_pure (act b)) ▸ hclause

theorem Outcomes.append (h : Outcomes lines act) (hmore : Outcomes more act') :
    Outcomes (lines ++ more) fun b => act b >>= act' := by
  induction h with
  | nil => exact hmore
  | remark hwords _ ih => exact .remark hwords ih
  | clause hscans hne hstatement _ ih =>
      rw [List.append_assoc]
      simp only [bind_assoc]
      exact .clause hscans hne hstatement ih

/-- Inside a block the lines are laid out as statements, and reading these acts on the block. -/
theorem Outcomes.read_body (h : Outcomes lines act) : ∃ signs statements,
    List.Forall₂ (fun line signs => Scans line.toList signs) (lines.map (indent ++ ·)) signs ∧
      (∀ s ∈ signs, s ≠ []) ∧ Layout (signs.flatMap (· ++ [.newline])) statements ∧
      ∀ text declared pieces b, pieces.map (List.map Token.sign) = statements →
        readBody text declared pieces b = (act b).map fun b => (b, []) := by
  induction h with
  | nil =>
      refine ⟨[], [], .nil, by simp, .nil, fun text declared pieces b hpieces => ?_⟩
      obtain rfl := List.map_eq_nil_iff.1 hpieces
      rfl
  | @remark words lines act hwords _ ih =>
      obtain ⟨signs, statements, hscans, hne, hlayout, hread⟩ := ih
      have hcomment : Scans ("//" ++ words).toList
          [.comment (String.ofList (Text.trimChars words.toList))] := by
        rw [String.toList_append]
        exact scans_comment hwords
      refine ⟨_ :: signs, statements, .cons hcomment.indented hscans, ?_, ?_, hread⟩
      · simpa using hne
      · exact .gap rfl (.gap rfl hlayout)
  | @clause lines more first act next hfirst hfirstNe hstatement _ ih =>
      obtain ⟨signs, statements, hscans, hne, hlayout, hread⟩ := ih
      refine ⟨first ++ signs, List.intercalate [.newline] first :: statements, ?_, ?_, ?_, ?_⟩
      · rw [List.map_append]
        exact List.rel_append (List.forall₂_map_left_iff.2 (hfirst.imp fun _ _ h => h.indented))
          hscans
      · intro s hs
        exact (List.mem_append.1 hs).elim (hfirstNe s) (hne s)
      · have hsome : first ≠ [] := by
          rintro rfl
          obtain ⟨name, tail, hnil⟩ := hstatement.statement.starts
          cases hnil
        rw [List.flatMap_append, flatMap_newline hsome, List.append_assoc]
        exact .statement hstatement.statement hlayout
      · intro text declared pieces b hpieces
        obtain ⟨piece, rest, rfl, hpiece, hrest⟩ := List.map_eq_cons_iff.1 hpieces
        rw [readBody, hstatement.read text declared piece b hpiece]
        beta_reduce
        cases act b with
        | error stop => rfl
        | ok changed =>
            change (readBody text declared rest changed >>= _) = (next changed).map _
            rw [hread text declared rest changed hrest]
            cases next changed <;> rfl

end Outcomes

end BuildGraph.Script
