import Mathlib
import BuildGraph.Model.Node

/-!
# Script identifiers

The identifier of a name holds characters of identifiers alone, is not blank unless the name is
empty, and is its own identifier. A name without a fault is its own identifier but for underscores
in a row: `identifier_spec`.
-/

namespace BuildGraph

open BuildGraph.Text

variable {cs : List Char} {c : Char}

/-- What is checked of the first 128 code points holds of all ASCII characters. -/
theorem forall_ascii {P : Char → Prop} (h : ∀ n < 128, P (Char.ofNat n)) (c : Char)
    (hc : c.toNat < 128) : P c := by
  simpa using h c.toNat hc

theorem isAlphanum_toNat_lt {c : Char} (h : c.isAlphanum = true) : c.toNat < 128 := by
  simp only [Char.isAlphanum, Char.isAlpha, Char.isUpper, Char.isLower, Char.isDigit,
    Bool.or_eq_true, Bool.and_eq_true, decide_eq_true_eq, ge_iff_le, UInt32.le_iff_toNat_le] at h
  have hval : c.toNat = c.val.toNat := rfl
  have hupper : 'Z'.val.toNat = 90 := rfl
  have hlower : 'z'.val.toNat = 122 := rfl
  have hdigit : '9'.val.toNat = 57 := rfl
  omega

theorem isIdentifierChar_toNat_lt (h : isIdentifierChar c = true) : c.toNat < 128 := by
  simp only [isIdentifierChar, Bool.or_eq_true, beq_iff_eq] at h
  rcases h with h | rfl
  · exact isAlphanum_toNat_lt h
  · decide

/-- A character of identifiers is no blank and no colon. -/
theorem isIdentifierChar_facts (h : isIdentifierChar c = true) : isBlank c = false ∧ c ≠ ':' := by
  refine forall_ascii (P := fun c => isIdentifierChar c = true → isBlank c = false ∧ c ≠ ':') ?_ c
    (isIdentifierChar_toNat_lt h) h
  decide +kernel

theorem mem_of_mem_merge_underscores (h : c ∈ mergeUnderscores cs) : c ∈ cs := by
  induction cs using mergeUnderscores.induct with
  | case1 rest ih =>
      rw [mergeUnderscores] at h
      exact List.mem_cons_of_mem _ (ih h)
  | case2 x rest hpair ih =>
      rw [mergeUnderscores] at h
      · rcases List.mem_cons.1 h with rfl | h
        · exact List.mem_cons_self
        · exact List.mem_cons_of_mem _ (ih h)
      · exact hpair
  | case3 => exact h

/-- Merged characters start as they did before. -/
theorem head_merge_underscores (cs : List Char) : (mergeUnderscores cs).head? = cs.head? := by
  induction cs using mergeUnderscores.induct with
  | case1 rest ih =>
      rw [mergeUnderscores, ih]
      rfl
  | case2 x rest hpair ih =>
      rw [mergeUnderscores]
      · rfl
      · exact hpair
  | case3 => rfl

/-- Merging twice is merging once. -/
theorem merge_underscores_merge_underscores (cs : List Char) :
    mergeUnderscores (mergeUnderscores cs) = mergeUnderscores cs := by
  induction cs using mergeUnderscores.induct with
  | case1 rest ih => rw [mergeUnderscores, ih]
  | case2 x rest hpair ih =>
      have hmerged : mergeUnderscores (x :: rest) = x :: mergeUnderscores rest := by
        rw [mergeUnderscores]
        exact hpair
      rw [hmerged, mergeUnderscores, ih]
      intro more hx hmore
      -- merging keeps the first character, so it brings no two underscores together
      have hhead := head_merge_underscores rest
      rw [hmore] at hhead
      cases rest with
      | nil => cases hhead
      | cons y rest =>
          obtain rfl := Option.some.inj hhead
          exact hpair rest hx rfl
  | case3 => rfl

/-- The characters of an identifier before underscores are merged. -/
def startedChars (cs : List Char) : List Char :=
  let plain := cs.map fun c => if isIdentifierChar c then c else '_'
  match plain with
  | c :: _ => if c.isDigit then '_' :: plain else plain
  | [] => plain

theorem identifier_chars_eq (cs : List Char) :
    identifierChars cs = mergeUnderscores (startedChars cs) := rfl

theorem isIdentifierChar_of_mem_started_chars (h : c ∈ startedChars cs) :
    isIdentifierChar c = true := by
  have hplain : ∀ x ∈ cs.map (fun c => if isIdentifierChar c then c else '_'),
      isIdentifierChar x = true := by
    intro x hx
    obtain ⟨y, -, rfl⟩ := List.mem_map.1 hx
    split
    · assumption
    · decide
  rw [startedChars] at h
  split at h
  · split at h
    · rcases List.mem_cons.1 h with rfl | h
      · decide
      · exact hplain c h
    · exact hplain c h
  · exact hplain c h

/-- All characters of an identifier may stand in one. -/
theorem isIdentifierChar_of_mem_identifier_chars (h : c ∈ identifierChars cs) :
    isIdentifierChar c = true :=
  isIdentifierChar_of_mem_started_chars (mem_of_mem_merge_underscores h)

theorem started_chars_head (cs : List Char) : ∀ c ∈ (startedChars cs).head?, c.isDigit = false := by
  intro c hc
  rw [startedChars] at hc
  split at hc
  · next x rest heq =>
      split at hc
      · obtain rfl := Option.some.inj hc
        decide
      · next hdigit =>
          rw [heq] at hc
          obtain rfl := Option.some.inj hc
          simpa using hdigit
  · next heq =>
      rw [heq] at hc
      cases hc

/-- Characters of identifiers that start with no digit are left as they are. -/
theorem started_chars_eq_self (hchars : ∀ c ∈ cs, isIdentifierChar c = true)
    (hhead : ∀ c ∈ cs.head?, c.isDigit = false) : startedChars cs = cs := by
  have hplain : cs.map (fun c => if isIdentifierChar c then c else '_') = cs := by
    rw [List.map_congr_left fun c hc => if_pos (hchars c hc), List.map_id']
  rw [startedChars]
  rw [hplain]
  split
  · next c rest => rw [if_neg (by simp [hhead c rfl])]
  · rfl

/-- The identifier of an identifier is itself. -/
theorem identifier_chars_identifier_chars (cs : List Char) :
    identifierChars (identifierChars cs) = identifierChars cs := by
  have hhead : ∀ c ∈ (identifierChars cs).head?, c.isDigit = false := by
    rw [identifier_chars_eq, head_merge_underscores]
    exact started_chars_head cs
  rw [identifier_chars_eq (identifierChars cs),
    started_chars_eq_self (fun c => isIdentifierChar_of_mem_identifier_chars) hhead,
    identifier_chars_eq, merge_underscores_merge_underscores]

theorem to_identifier_to_identifier (name : String) :
    toIdentifier (toIdentifier name) = toIdentifier name := by
  rw [toIdentifier, toIdentifier, String.toList_ofList, identifier_chars_identifier_chars]

/-- An identifier is empty when the name is. -/
theorem identifier_chars_eq_nil_iff : identifierChars cs = [] ↔ cs = [] := by
  rw [identifier_chars_eq]
  constructor
  · intro h
    have hhead := head_merge_underscores (startedChars cs)
    rw [h] at hhead
    have hnil : startedChars cs = [] := List.head?_eq_none_iff.1 hhead.symm
    cases cs with
    | nil => rfl
    | cons c cs =>
        rw [startedChars, List.map_cons] at hnil
        dsimp only at hnil
        generalize (if isIdentifierChar c = true then c else '_') = x at hnil
        cases hdigit : x.isDigit <;> simp [hdigit] at hnil
  · rintro rfl
    rfl

/-- The identifier of a name that is not blank is not blank. -/
theorem not_blank_to_identifier {name : String} (h : isBlankText name = false) :
    isBlankText (toIdentifier name) = false := by
  rw [isBlankText, List.all_eq_false] at *
  obtain ⟨c, hc, -⟩ := h
  have hne : identifierChars name.toList ≠ [] := fun hnil => by
    rw [identifier_chars_eq_nil_iff.1 hnil] at hc
    cases hc
  obtain ⟨x, rest, hcons⟩ := List.exists_cons_of_ne_nil hne
  have hx : x ∈ identifierChars name.toList := hcons ▸ List.mem_cons_self
  refine ⟨x, by rwa [toIdentifier, String.toList_ofList], ?_⟩
  simp [(isIdentifierChar_facts (isIdentifierChar_of_mem_identifier_chars hx)).1]

theorem length_merge_underscores_le (cs : List Char) :
    (mergeUnderscores cs).length ≤ cs.length := by
  induction cs using mergeUnderscores.induct with
  | case1 rest ih =>
      rw [mergeUnderscores]
      exact ih.trans (Nat.le_succ _)
  | case2 x rest hpair ih =>
      rw [mergeUnderscores]
      · exact Nat.succ_le_succ ih
      · exact hpair
  | case3 => exact le_rfl

/-- Merging leaves characters as they are exactly if no two underscores stand together. -/
theorem merge_underscores_eq_self_iff (cs : List Char) :
    mergeUnderscores cs = cs ↔ ¬ ['_', '_'] <:+: cs := by
  induction cs using mergeUnderscores.induct with
  | case1 rest ih =>
      refine iff_of_false (fun h => ?_) (not_not_intro ⟨[], rest, rfl⟩)
      have hle := length_merge_underscores_le ('_' :: rest)
      rw [mergeUnderscores] at h
      rw [h] at hle
      simp at hle
  | case2 x rest hpair ih =>
      have hmerged : mergeUnderscores (x :: rest) = x :: mergeUnderscores rest := by
        rw [mergeUnderscores]
        exact hpair
      have hfront : ¬ ['_', '_'] <+: x :: rest := by
        rintro ⟨more, hmore⟩
        obtain ⟨rfl, rfl⟩ := List.cons.inj hmore
        exact hpair more rfl rfl
      rw [hmerged, List.cons_inj_right, ih, List.infix_cons_iff, not_or]
      exact ⟨fun h => ⟨hfront, h⟩, And.right⟩
  | case3 => simp [mergeUnderscores]

/-- A script can hold the characters as a name: a letter or an underscore, then letters, digits and
underscores, no two underscores standing together. -/
structure IsScriptName (cs : List Char) : Prop where
  spelled : ∃ c rest, cs = c :: rest ∧ isIdentifierStart c = true ∧
    ∀ x ∈ rest, isIdentifierChar x = true
  merged : ¬ ['_', '_'] <:+: cs

theorem isIdentifierStart_iff : isIdentifierStart c = true ↔
    isIdentifierChar c = true ∧ c.isDigit = false := by
  have hascii : c.toNat < 128 → (isIdentifierStart c = true ↔
      isIdentifierChar c = true ∧ c.isDigit = false) :=
    forall_ascii (P := fun c => isIdentifierStart c = true ↔
      isIdentifierChar c = true ∧ c.isDigit = false) (by decide +kernel) c
  refine ⟨fun h => (hascii ?_).1 h, fun h => (hascii (isIdentifierChar_toNat_lt h.1)).2 h⟩
  rw [isIdentifierStart, Bool.or_eq_true, beq_iff_eq] at h
  rcases h with h | rfl
  · exact isAlphanum_toNat_lt (by simp [Char.isAlphanum, h])
  · decide

/-- The identifier of a name that is not empty can stand in a script. -/
theorem isScriptName_identifierChars (hne : cs ≠ []) : IsScriptName (identifierChars cs) := by
  obtain ⟨c, rest, hcons⟩ := List.exists_cons_of_ne_nil (mt identifier_chars_eq_nil_iff.1 hne)
  have hchars : ∀ x ∈ c :: rest, isIdentifierChar x = true :=
    fun x hx => isIdentifierChar_of_mem_identifier_chars (hcons ▸ hx)
  have hdigit : c.isDigit = false := by
    refine started_chars_head cs c ?_
    rw [← head_merge_underscores, ← identifier_chars_eq, hcons]
    rfl
  obtain ⟨hc, hrest⟩ := List.forall_mem_cons.1 hchars
  exact {
    spelled := ⟨c, rest, hcons, isIdentifierStart_iff.2 ⟨hc, hdigit⟩, hrest⟩
    merged := (merge_underscores_eq_self_iff _).1 (by
      rw [identifier_chars_eq, merge_underscores_merge_underscores]) }

theorem identifierChars_of_line (hline : isIdentifierLine cs = true)
    (hlast : cs.getLast? ≠ some '\n') : identifierChars cs = mergeUnderscores cs := by
  cases cs with
  | nil => rfl
  | cons c rest => 
      rw [isIdentifierLine, Bool.and_eq_true, Bool.or_eq_true, Bool.and_eq_true] at hline
      obtain ⟨hstart, hrest⟩ := hline
      have hall : ∀ x ∈ rest, isIdentifierChar x = true := by
        rcases hrest with hrest | ⟨hfeed, -⟩
        · exact List.all_eq_true.1 hrest
        · rw [beq_iff_eq] at hfeed
          have hne : rest ≠ [] := by
            rintro rfl
            cases hfeed
          rw [List.getLast?_cons_of_ne_nil hne] at hlast
          exact absurd hfeed hlast
      obtain ⟨hc, hdigit⟩ := isIdentifierStart_iff.1 hstart
      rw [identifier_chars_eq, started_chars_eq_self (List.forall_mem_cons.2 ⟨hc, hall⟩)]
      rintro _ ⟨⟩
      exact hdigit

/-- Without a fault of its name, the name of a node is an identifier, but for a line feed. -/
theorem Node.isIdentifierLine_of_faults {n : Node} (h : ∀ f ∈ n.faults, f.field ≠ "name") :
    isIdentifierLine n.name.toList = true := by
  by_contra hline
  rw [Bool.not_eq_true] at hline
  cases hblank : isBlankText n.name with
  | true => exact h .nameMissing (by simp [Node.faults, hblank]) rfl
  | false => exact h (.nameNotIdentifier n.identifier) (by simp [Node.faults, hblank, hline]) rfl

/-- What a script calls a task: the identifier of a name with a character that is no blank can stand
in a script and is its own identifier. A name without a fault, if it does not end in a line feed,
only has its underscores merged, so that it is kept if no two of them stand together. -/
theorem identifier_spec :
    (∀ name, isBlankText name = false → IsScriptName (toIdentifier name).toList ∧
      toIdentifier (toIdentifier name) = toIdentifier name) ∧
    ∀ n : Node, (∀ f ∈ n.faults, f.field ≠ "name") → n.name.toList.getLast? ≠ some '\n' →
      n.identifier = String.ofList (mergeUnderscores n.name.toList) ∧
        (n.identifier = n.name ↔ ¬ ['_', '_'] <:+: n.name.toList) := by
  constructor
  · intro name hname
    have hne : name.toList ≠ [] := by
      intro hnil
      simp [isBlankText, hnil] at hname
    refine ⟨?_, to_identifier_to_identifier name⟩
    rw [toIdentifier, String.toList_ofList]
    exact isScriptName_identifierChars hne
  · intro n hfaults hlast
    have hmerged : n.identifier = String.ofList (mergeUnderscores n.name.toList) := by
      rw [Node.identifier, toIdentifier,
        identifierChars_of_line (Node.isIdentifierLine_of_faults hfaults) hlast]
    refine ⟨hmerged, ?_⟩
    rw [← merge_underscores_eq_self_iff, hmerged, ← String.toList_inj, String.toList_ofList]

/-- A task with a name that a script can hold. -/
def plainTask : Node := { id := "n", name := "_build_2" }

/-- A name that is no identifier is spelled as one, and one with no two underscores in a row is
kept. -/
theorem identifier_spec_kept :
    isBlankText "9 lives" = false ∧ IsScriptName (toIdentifier "9 lives").toList ∧
      (∀ f ∈ plainTask.faults, f.field ≠ "name") ∧ plainTask.name.toList.getLast? ≠ some '\n' ∧
      plainTask.identifier = plainTask.name := by
  have hname : isBlankText "9 lives" = false := by decide +kernel
  have hfaults : ∀ f ∈ plainTask.faults, f.field ≠ "name" := by decide +kernel
  have hlast : plainTask.name.toList.getLast? ≠ some '\n' := by decide
  exact ⟨hname, (identifier_spec.1 _ hname).1, hfaults, hlast,
    (identifier_spec.2 _ hfaults hlast).2.2 (by decide)⟩

/-- A task with two underscores in a row in its name. -/
def doublyScoredTask : Node := { id := "n", name := "a__b" }

/-- A name with two underscores in a row has no fault and is not kept. -/
theorem two_underscores_merged :
    (∀ f ∈ doublyScoredTask.faults, f.field ≠ "name") ∧ doublyScoredTask.identifier = "a_b" ∧
      doublyScoredTask.identifier ≠ doublyScoredTask.name := by
  decide +kernel

end BuildGraph
