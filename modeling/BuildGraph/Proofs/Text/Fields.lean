import Mathlib
import BuildGraph.Text.Split

/-!
# The fields of a text

The words of a text are its fields between blanks, the maximal runs of characters that are no
blanks: `wordsFrom_eq_iff`. A text that is cut at a character is put together from its pieces with
that character between them.
-/

namespace BuildGraph.Text

/-- The fields of a text that stand between blanks. -/
inductive BlankSeparated : List Char → List (List Char) → Prop where
  | nil {blanks : List Char} : (∀ c ∈ blanks, isBlank c = true) → BlankSeparated blanks []
  | cons {blanks field rest : List Char} {fields : List (List Char)} :
      (∀ c ∈ blanks, isBlank c = true) → field ≠ [] → (∀ c ∈ field, isBlank c = false) →
      (∀ c ∈ rest.head?, isBlank c = true) → BlankSeparated rest fields →
      BlankSeparated (blanks ++ field ++ rest) (field :: fields)

variable {cs word blanks field rest : List Char} {fields : List (List Char)} {c : Char}

theorem wordsFrom_blanks (h : ∀ c ∈ blanks, isBlank c = true) (rest : List Char) :
    wordsFrom [] (blanks ++ rest) = wordsFrom [] rest := by
  induction blanks with
  | nil => rfl
  | cons c blanks ih =>
      obtain ⟨hc, hblanks⟩ := List.forall_mem_cons.1 h
      rw [List.cons_append, wordsFrom, if_pos hc, if_pos List.isEmpty_nil, ih hblanks]

theorem wordsFrom_field (h : ∀ c ∈ field, isBlank c = false) (word rest : List Char) :
    wordsFrom word (field ++ rest) = wordsFrom (field.reverse ++ word) rest := by
  induction field generalizing word with
  | nil => rfl
  | cons c field ih =>
      obtain ⟨hc, hfield⟩ := List.forall_mem_cons.1 h
      rw [List.cons_append, wordsFrom, if_neg (by simp [hc]), ih hfield, List.reverse_cons,
        List.append_assoc, List.singleton_append]

/-- A blank cuts a text into parts whose words are independent. -/
theorem wordsFrom_append (hc : isBlank c = true) (word cs rest : List Char) :
    wordsFrom word (cs ++ c :: rest) = wordsFrom word cs ++ wordsFrom [] rest := by
  induction cs generalizing word with
  | nil =>
      rw [List.nil_append, wordsFrom, wordsFrom, if_pos hc]
      split <;> rfl
  | cons x cs ih =>
      rw [List.cons_append, wordsFrom, wordsFrom]
      split_ifs <;> simp only [ih, List.cons_append]

/-- A field ends with the text or before a blank. -/
theorem wordsFrom_ends (hword : word ≠ []) (hrest : ∀ c ∈ rest.head?, isBlank c = true) :
    wordsFrom word rest = word.reverse :: wordsFrom [] rest := by
  cases rest with
  | nil => rw [wordsFrom, if_neg (by simpa using hword), wordsFrom, if_pos List.isEmpty_nil]
  | cons c rest =>
      have hc := hrest c rfl
      rw [wordsFrom, if_pos hc, if_neg (by simpa using hword), wordsFrom, if_pos hc,
        if_pos List.isEmpty_nil]

theorem BlankSeparated.blank_cons (hc : isBlank c = true) (h : BlankSeparated cs fields) :
    BlankSeparated (c :: cs) fields := by
  cases h with
  | nil hblanks => exact .nil (List.forall_mem_cons.2 ⟨hc, hblanks⟩)
  | cons hblanks hne hfield hrest h =>
      exact .cons (List.forall_mem_cons.2 ⟨hc, hblanks⟩) hne hfield hrest h

/-- A field that was read to its end stands in front of the others. -/
theorem BlankSeparated.ends (hne : word ≠ []) (hword : ∀ c ∈ word, isBlank c = false)
    (hrest : ∀ c ∈ rest.head?, isBlank c = true) (h : BlankSeparated rest fields) :
    BlankSeparated (word.reverse ++ rest) (word.reverse :: fields) := by
  have hfield := BlankSeparated.cons (List.forall_mem_nil _) (List.reverse_ne_nil_iff.2 hne)
    (fun c hc => hword c (List.mem_reverse.1 hc)) hrest h
  rwa [List.nil_append] at hfield

/-- What is read as words are the fields, that of which a part is read already included. -/
theorem blankSeparated_wordsFrom (hword : ∀ c ∈ word, isBlank c = false) (cs : List Char) :
    BlankSeparated (word.reverse ++ cs) (wordsFrom word cs) := by
  induction cs generalizing word with
  | nil =>
      have hnone : BlankSeparated [] [] := .nil (List.forall_mem_nil _)
      cases word with
      | nil => exact hnone
      | cons x word => exact hnone.ends (List.cons_ne_nil x word) hword (by simp)
  | cons c rest ih =>
      by_cases hc : isBlank c = true
      · have hrest : BlankSeparated (c :: rest) (wordsFrom [] rest) :=
          (ih (List.forall_mem_nil _)).blank_cons hc
        cases word with
        | nil => rwa [wordsFrom, if_pos hc, if_pos List.isEmpty_nil]
        | cons x word =>
            rw [wordsFrom, if_pos hc, if_neg (by simp)]
            exact hrest.ends (List.cons_ne_nil x word) hword (by simpa using hc)
      · have hread := ih (List.forall_mem_cons.2 ⟨Bool.not_eq_true _ ▸ hc, hword⟩)
        rw [List.reverse_cons, List.append_assoc, List.singleton_append] at hread
        rwa [wordsFrom, if_neg hc]

/-- The words of a text are its fields between blanks. -/
theorem wordsFrom_eq_iff : wordsFrom [] cs = fields ↔ BlankSeparated cs fields := by
  constructor
  · rintro rfl
    exact blankSeparated_wordsFrom (List.forall_mem_nil _) cs
  · intro h
    induction h with
    | nil hblanks => simpa [wordsFrom] using wordsFrom_blanks hblanks []
    | cons hblanks hne hfield hrest _ ih =>
        rw [List.append_assoc, wordsFrom_blanks hblanks, wordsFrom_field hfield, List.append_nil,
          wordsFrom_ends (by simpa using hne) hrest, List.reverse_reverse, ih]

theorem blankSeparated_words (s : String) : BlankSeparated s.toList (wordsFrom [] s.toList) :=
  wordsFrom_eq_iff.1 rfl

/-- A text has one list of fields. -/
theorem BlankSeparated.unique {fields' : List (List Char)} (h : BlankSeparated cs fields)
    (h' : BlankSeparated cs fields') : fields = fields' :=
  (wordsFrom_eq_iff.2 h).symm.trans (wordsFrom_eq_iff.2 h')

/-- Every character of a text is a blank or in one of its fields. -/
theorem BlankSeparated.isBlank_or_mem (h : BlankSeparated cs fields) (hc : c ∈ cs) :
    isBlank c = true ∨ ∃ field ∈ fields, c ∈ field := by
  induction h with
  | nil hblanks => exact .inl (hblanks c hc)
  | @cons blanks field rest fields hblanks _ _ _ _ ih =>
      rcases List.mem_append.1 hc with hc | hc
      · rcases List.mem_append.1 hc with hc | hc
        · exact .inl (hblanks c hc)
        · exact .inr ⟨field, List.mem_cons_self, hc⟩
      · refine (ih hc).imp_right ?_
        rintro ⟨other, hother, hmem⟩
        exact ⟨other, List.mem_cons_of_mem field hother, hmem⟩

/-- A text without blanks is a field of its own. -/
theorem wordsFrom_eq_singleton (hne : cs ≠ []) (h : ∀ c ∈ cs, isBlank c = false) :
    wordsFrom [] cs = [cs] := by
  have hfield := wordsFrom_field h [] []
  rwa [List.append_nil, List.append_nil, wordsFrom, if_neg (by simpa using hne),
    List.reverse_reverse] at hfield

/-- A text that is not all blanks has fields. -/
theorem wordsFrom_ne_nil (hc : c ∈ cs) (hother : isBlank c = false) : wordsFrom [] cs ≠ [] := by
  intro h
  rcases (wordsFrom_eq_iff.1 h).isBlank_or_mem hc with hblank | ⟨field, hfield, -⟩
  · rw [hother] at hblank
    cases hblank
  · cases hfield

/-- Two fields take a blank between them. -/
theorem two_mul_length_wordsFrom_le (word cs : List Char) :
    2 * (wordsFrom word cs).length ≤ cs.length + min word.length 1 + 1 := by
  induction cs generalizing word with
  | nil =>
      cases word with
      | nil => simp [wordsFrom]
      | cons x word => simp [wordsFrom]
  | cons c cs ih =>
      have hrest := ih []
      have hlonger := ih (c :: word)
      rw [wordsFrom]
      split
      · cases word with
        | nil => simpa using hrest.trans (by simp)
        | cons x word =>
            simp only [List.isEmpty_cons, List.length_cons, List.length_nil] at hrest ⊢
            simp
            omega
      · simp only [List.length_cons] at hlonger ⊢
        omega

theorem splitChars_ne_nil (sep : Char) (cs : List Char) : splitChars sep cs ≠ [] := by
  cases cs with
  | nil => exact List.cons_ne_nil _ _
  | cons c cs =>
      rw [splitChars]
      split
      · exact List.cons_ne_nil _ _
      · split <;> exact List.cons_ne_nil _ _

/-- A text is put together from the pieces into which it is cut. -/
theorem eq_of_splitChars {sep : Char} {piece : List Char} {pieces : List (List Char)}
    (h : splitChars sep cs = piece :: pieces) :
    cs = piece ++ pieces.flatMap fun p => sep :: p := by
  induction cs generalizing piece pieces with
  | nil =>
      cases h
      rfl
  | cons c cs ih =>
      obtain ⟨first, others, hcut⟩ := List.exists_cons_of_ne_nil (splitChars_ne_nil sep cs)
      rw [splitChars, hcut] at h
      split at h
      · next hsep =>
          obtain ⟨rfl, rfl⟩ := List.cons.inj h
          rw [List.nil_append, List.flatMap_cons, List.cons_append, ← ih hcut, hsep]
      · obtain ⟨rfl, rfl⟩ := List.cons.inj h
        rw [List.cons_append, ← ih hcut]

theorem toList_of_splitAt {sep : Char} {s piece : String} {pieces : List String}
    (h : splitAt sep s = piece :: pieces) :
    s.toList = piece.toList ++ pieces.flatMap fun p => sep :: p.toList := by
  rw [splitAt] at h
  obtain ⟨first, others, hcut, rfl, rfl⟩ := List.map_eq_cons_iff.1 h
  rw [eq_of_splitChars hcut, List.flatMap_map, String.toList_ofList]
  simp only [String.toList_ofList]

end BuildGraph.Text
