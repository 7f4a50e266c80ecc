import Mathlib
import BuildGraph.Ids

/-!
# Ids are issued once

A generator that looks for a free number tries one after another. `SearchEnds` is that search with
no bound on the tries; it ends because numbers make distinct ids and finitely many ids are taken
(`IdGenerator.freeNumber_ends`). So every call to a generator is answered, and with an id that was
neither issued nor reserved before: `IdGenerator.after_answersFresh` says so after any calls.
-/

namespace BuildGraph

/-- The search for a number whose id is not taken, from a number on: it ends at the first one. -/
inductive SearchEnds (taken : List String) (candidate : Int → String) : Int → Int → Prop
  | free {n : Int} (h : candidate n ∉ taken) : SearchEnds taken candidate n n
  | goOn {n last : Int} (h : candidate n ∈ taken)
      (later : SearchEnds taken candidate (n + 1) last) : SearchEnds taken candidate n last

/-- A call to a generator. -/
inductive IdCall where
  | reserve (ids : List String)
  | next (lead : String)
  | unique (preferred : String)

/-- The ids that a call reserves. -/
def IdCall.reserved : IdCall → List String
  | reserve ids => ids
  | _ => []

/-- The id that a number makes, written behind a text. -/
def numbered (lead : String) (label : Int → String) (n : Int) : String := lead ++ "_" ++ label n

namespace IdGenerator

/-- Answers a call, with an id if it asks for one. -/
def answer (g : IdGenerator) : IdCall → Option String × IdGenerator
  | .reserve ids => (none, g.reserve ids)
  | .next lead => (some (g.next lead).1, (g.next lead).2)
  | .unique preferred => (some (g.unique preferred).1, (g.unique preferred).2)

/-- The generator after several calls. -/
def after (g : IdGenerator) (calls : List IdCall) : IdGenerator :=
  calls.foldl (fun g call => (g.answer call).2) g

/-- The ids that calls reserve, and those that are issued in answer to them. -/
def claimed (g : IdGenerator) : List IdCall → List String
  | [] => []
  | call :: calls =>
      call.reserved ++ (g.answer call).1.toList ++ claimed (g.answer call).2 calls

/-- How a generator answers where some ids are known: with one that is not among them. It bears the
first free number, or is the preferred id itself. -/
structure AnswersFresh (g : IdGenerator) (known : List String) : Prop where
  next : ∀ lead, ∃ n, SearchEnds known (numbered lead g.label) g.counter n ∧
    (g.answer (.next lead)).1 = some (numbered lead g.label n) ∧
    numbered lead g.label n ∉ known
  unique : ∀ preferred, ∃ id, (g.answer (.unique preferred)).1 = some id ∧ id ∉ known ∧
    (id = preferred ∨ preferred ∈ known ∧
      ∃ n, SearchEnds known (numbered preferred toString) 2 n ∧
        id = numbered preferred toString n)

end IdGenerator

section Search

variable {taken known : List String} {candidate : Int → String} {n last : Int}

/-- A search depends on which ids are taken, and not on their order. -/
theorem SearchEnds.congr (h : SearchEnds taken candidate n last)
    (hsame : ∀ id, id ∈ taken ↔ id ∈ known) : SearchEnds known candidate n last := by
  induction h with
  | free hfree => exact .free (mt (hsame _).2 hfree)
  | goOn htaken _ ih => exact .goOn ((hsame _).1 htaken) ih

theorem SearchEnds.not_mem (h : SearchEnds taken candidate n last) : candidate last ∉ taken := by
  induction h with
  | free hfree => exact hfree
  | goOn _ _ ih => exact ih

/-- Distinct labels make distinct ids. -/
theorem numbered_injective {label : Int → String} (h : Function.Injective label) (lead : String) :
    Function.Injective (numbered lead label) := by
  intro m n heq
  exact h (by simpa [numbered] using heq)

theorem toString_int_injective : Function.Injective (toString : Int → String) := by
  intro m n heq
  simpa using heq

end Search

namespace IdGenerator

variable {g : IdGenerator} {candidate : Int → String} {known : List String} {id : String}

section Numbers

/-- A number whose id is taken comes after numbers whose ids are all taken. -/
theorem taken_of_freeNumber {tries : Nat} {n : Int}
    (h : candidate (g.freeNumber candidate tries n) ∈ g.issued) :
    ∀ k ≤ tries, candidate (n + k) ∈ g.issued := by
  induction tries generalizing n with
  | zero =>
      intro k hk
      obtain rfl := Nat.le_zero.1 hk
      simpa [freeNumber] using h
  | succ tries ih =>
      rw [freeNumber] at h
      intro k hk
      split_ifs at h with hn
      · cases k with
        | zero => simpa using hn
        | succ k =>
            have hlater := ih h k (Nat.le_of_succ_le_succ hk)
            rwa [Int.add_assoc, Int.add_comm 1] at hlater
      · exact absurd h hn

/-- As many numbers are tried as ids were issued, and one more, so that one of them is free. -/
theorem freeNumber_fresh (hinj : Function.Injective candidate) (n : Int) :
    candidate (g.freeNumber candidate g.issued.length n) ∉ g.issued := by
  intro h
  have htaken := taken_of_freeNumber h
  have hnodup : ((List.range (g.issued.length + 1)).map fun k : Nat => candidate (n + k)).Nodup :=
    List.Nodup.map (fun a b hab => by simpa using hinj hab) List.nodup_range
  have hsubset : ((List.range (g.issued.length + 1)).map fun k : Nat => candidate (n + k)) ⊆
      g.issued := by
    intro id hid
    obtain ⟨k, hk, rfl⟩ := List.mem_map.1 hid
    exact htaken k (Nat.le_of_lt_succ (List.mem_range.1 hk))
  have hlength := hnodup.length_le_of_subset hsubset
  simp at hlength

/-- The number that is found is where the search ends. -/
theorem freeNumber_ends (hinj : Function.Injective candidate) (n : Int) :
    SearchEnds g.issued candidate n (g.freeNumber candidate g.issued.length n) := by
  have hends : ∀ (tries : Nat) (n : Int),
      candidate (g.freeNumber candidate tries n) ∉ g.issued →
        SearchEnds g.issued candidate n (g.freeNumber candidate tries n) := by
    intro tries
    induction tries with
    | zero => exact fun n hfree => .free hfree
    | succ tries ih =>
        intro n hfree
        rw [freeNumber] at hfree ⊢
        split_ifs at hfree ⊢ with htaken
        · exact .goOn htaken (ih (n + 1) hfree)
        · exact .free htaken
  exact hends _ n (freeNumber_fresh hinj n)

end Numbers

section Answers

/-- The next id is new. -/
theorem next_fresh (hlabel : Function.Injective g.label) (lead : String) :
    (g.next lead).1 ∉ g.issued :=
  freeNumber_fresh (numbered_injective hlabel lead) g.counter

/-- A preferred id that is taken gets a number. -/
theorem unique_eq (g : IdGenerator) (preferred : String) :
    (g.unique preferred).1 = preferred ∧ preferred ∉ g.issued ∨
      preferred ∈ g.issued ∧ ∃ n, SearchEnds g.issued (numbered preferred toString) 2 n ∧
        (g.unique preferred).1 = numbered preferred toString n := by
  simp only [unique]
  split_ifs with htaken
  · exact .inr ⟨htaken, _, freeNumber_ends (numbered_injective toString_int_injective _) 2, rfl⟩
  · exact .inl ⟨rfl, htaken⟩

/-- An id is issued once. -/
theorem unique_fresh (g : IdGenerator) (preferred : String) :
    (g.unique preferred).1 ∉ g.issued := by
  rcases g.unique_eq preferred with ⟨heq, hfree⟩ | ⟨-, n, hends, heq⟩
  · rwa [heq]
  · rw [heq]
    exact hends.not_mem

/-- A preferred id is the beginning of the id that is issued for it. -/
theorem unique_begins (g : IdGenerator) (preferred : String) :
    preferred.toList <+: (g.unique preferred).1.toList := by
  rcases g.unique_eq preferred with ⟨heq, -⟩ | ⟨-, n, -, heq⟩
  · rw [heq]
  · rw [heq, numbered, String.toList_append, String.toList_append, List.append_assoc]
    exact List.prefix_append _ _

/-- After a call the taken ids are those from before, those it reserves and the one it is answered
with. -/
theorem mem_issued_answer (g : IdGenerator) (call : IdCall) :
    id ∈ (g.answer call).2.issued ↔
      id ∈ g.issued ∨ id ∈ call.reserved ++ (g.answer call).1.toList := by
  cases call with
  | reserve ids => simp [answer, reserve, IdCall.reserved, or_comm]
  | next lead => simp [answer, next, IdCall.reserved, or_comm]
  | unique preferred => simp [answer, unique, IdCall.reserved, or_comm]

theorem answer_label (g : IdGenerator) (call : IdCall) : (g.answer call).2.label = g.label := by
  cases call <;> rfl

theorem after_label (g : IdGenerator) (calls : List IdCall) : (g.after calls).label = g.label := by
  induction calls generalizing g with
  | nil => rfl
  | cons call calls ih => exact (ih _).trans (g.answer_label call)

/-- After calls the taken ids are those from before and those that the calls claimed. -/
theorem mem_issued_after (g : IdGenerator) (calls : List IdCall) :
    id ∈ (g.after calls).issued ↔ id ∈ g.issued ++ g.claimed calls := by
  induction calls generalizing g with
  | nil => simp [after, claimed]
  | cons call calls ih =>
      have hstep : g.after (call :: calls) = (g.answer call).2.after calls := rfl
      rw [hstep, ih, List.mem_append, mem_issued_answer, or_assoc, ← List.mem_append,
        ← List.mem_append]
      rfl

/-- A generator with distinct labels answers with ids that are not taken. -/
theorem answersFresh (hlabel : Function.Injective g.label)
    (hknown : ∀ id, id ∈ g.issued ↔ id ∈ known) : g.AnswersFresh known where
  next := by
    intro lead
    have hends := (freeNumber_ends (numbered_injective hlabel lead) g.counter).congr hknown
    exact ⟨_, hends, rfl, hends.not_mem⟩
  unique := by
    intro preferred
    refine ⟨_, rfl, mt (hknown _).2 (g.unique_fresh preferred), ?_⟩
    rcases g.unique_eq preferred with ⟨heq, -⟩ | ⟨htaken, n, hends, heq⟩
    · exact .inl heq
    · exact .inr ⟨(hknown _).1 htaken, n, hends.congr hknown, heq⟩

/-- After any calls a generator answers with ids that were neither issued nor reserved before. -/
theorem after_answersFresh (hlabel : Function.Injective g.label) (calls : List IdCall) :
    (g.after calls).AnswersFresh (g.issued ++ g.claimed calls) :=
  answersFresh ((g.after_label calls).symm ▸ hlabel) fun _ => g.mem_issued_after calls

end Answers

end IdGenerator

end BuildGraph
