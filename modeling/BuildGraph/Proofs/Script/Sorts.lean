import Mathlib

/-!
# Sorting by what things come to

`Sorts P Q xs ys zs` says that each of the things `xs` comes to one of two things, to one by `P` or
to one by `Q`: `ys` and `zs` hold the things of either kind in their order, each with what it came
to. Nothing is lost and nothing counts twice (`Sorts.perm`), and what one kind came to can be sorted
further (`Sorts.trans`).
-/

namespace BuildGraph

variable {α β γ δ : Type} {P P' : α → β → Prop} {Q Q' : α → γ → Prop} {R : β → δ → Prop}
  {S : β → γ → Prop} {xs xs' : List α} {ys ys' : List (α × β)} {zs zs' : List (α × γ)}

/-- Each of the things comes to one of two things. -/
inductive Sorts (P : α → β → Prop) (Q : α → γ → Prop) :
    List α → List (α × β) → List (α × γ) → Prop
  | nil : Sorts P Q [] [] []
  | left {x : α} {y : β} {xs : List α} {ys : List (α × β)} {zs : List (α × γ)} : P x y →
      Sorts P Q xs ys zs → Sorts P Q (x :: xs) ((x, y) :: ys) zs
  | right {x : α} {z : γ} {xs : List α} {ys : List (α × β)} {zs : List (α × γ)} : Q x z →
      Sorts P Q xs ys zs → Sorts P Q (x :: xs) ys ((x, z) :: zs)

/-- The things are those of the two kinds. -/
theorem Sorts.perm (h : Sorts P Q xs ys zs) :
    xs.Perm (ys.map Prod.fst ++ zs.map Prod.fst) := by
  induction h with
  | nil => exact .refl _
  | left _ _ ih => exact ih.cons _
  | right _ _ ih => exact (ih.cons _).trans List.perm_middle.symm

/-- What is made of the things is made of those of the two kinds. -/
theorem Sorts.perm_flatMap {ε : Type} (h : Sorts P Q xs ys zs) (f : α → List ε) :
    (xs.flatMap f).Perm (ys.flatMap (fun y => f y.1) ++ zs.flatMap fun z => f z.1) := by
  have hperm := h.perm.flatMap_right f
  rwa [List.flatMap_append, List.flatMap_map, List.flatMap_map] at hperm

/-- What a thing of the first kind came to, it came to by the first relation. -/
theorem Sorts.left_of_mem (h : Sorts P Q xs ys zs) : ∀ y ∈ ys, y.1 ∈ xs ∧ P y.1 y.2 := by
  induction h with
  | nil => exact List.forall_mem_nil _
  | left hP _ ih =>
      exact List.forall_mem_cons.2 ⟨⟨List.mem_cons_self, hP⟩, fun y hy =>
        ⟨List.mem_cons_of_mem _ (ih y hy).1, (ih y hy).2⟩⟩
  | right _ _ ih => exact fun y hy => ⟨List.mem_cons_of_mem _ (ih y hy).1, (ih y hy).2⟩

theorem Sorts.append (h : Sorts P Q xs ys zs) (h' : Sorts P Q xs' ys' zs') :
    Sorts P Q (xs ++ xs') (ys ++ ys') (zs ++ zs') := by
  induction h with
  | nil => exact h'
  | left hP _ ih => exact .left hP ih
  | right hQ _ ih => exact .right hQ ih

theorem Sorts.imp (h : Sorts P Q xs ys zs) (hP : ∀ x y, P x y → P' x y)
    (hQ : ∀ x z, Q x z → Q' x z) : Sorts P' Q' xs ys zs := by
  induction h with
  | nil => exact .nil
  | left h _ ih => exact .left (hP _ _ h) ih
  | right h _ ih => exact .right (hQ _ _ h) ih

/-- Things are sorted as what they are made of is. -/
theorem Sorts.map {α' : Type} {P' : α' → β → Prop} {Q' : α' → γ → Prop} (f : α → α')
    (h : Sorts P Q xs ys zs) (hP : ∀ x y, P x y → P' (f x) y) (hQ : ∀ x z, Q x z → Q' (f x) z) :
    Sorts P' Q' (xs.map f) (ys.map (Prod.map f id)) (zs.map (Prod.map f id)) := by
  induction h with
  | nil => exact .nil
  | left h _ ih => exact .left (hP _ _ h) ih
  | right h _ ih => exact .right (hQ _ _ h) ih

/-- What the things of one kind came to is sorted further: a thing comes to what this comes to by
the first relation, or else to what it came to itself by the second, or what this comes to by the
second. -/
theorem Sorts.trans {us : List (β × δ)} {vs : List (β × γ)} (h : Sorts P Q xs ys zs)
    (h' : Sorts R S (ys.map Prod.snd) us vs) :
    ∃ ys' zs', Sorts (fun x u => ∃ y, P x y ∧ R y u) (fun x z => Q x z ∨ ∃ y, P x y ∧ S y z)
        xs ys' zs' ∧
      List.Forall₂ (fun y u => P y.1 u.1 ∧ y.2 = u.2) ys' us ∧
      (zs'.map Prod.snd).Perm (zs.map Prod.snd ++ vs.map Prod.snd) := by
  induction h generalizing us vs with
  | nil =>
      cases h'
      exact ⟨[], [], .nil, .nil, .refl _⟩
  | @left x y xs ys zs hP h ih =>
      cases h' with
      | left hR h' =>
          obtain ⟨ys', zs', hsorts, hmade, hperm⟩ := ih h'
          exact ⟨_, _, .left ⟨y, hP, hR⟩ hsorts, .cons ⟨hP, rfl⟩ hmade, hperm⟩
      | right hS h' =>
          obtain ⟨ys', zs', hsorts, hmade, hperm⟩ := ih h'
          exact ⟨_, _, .right (.inr ⟨y, hP, hS⟩) hsorts, hmade,
            (hperm.cons _).trans List.perm_middle.symm⟩
  | right hQ h ih =>
      obtain ⟨ys', zs', hsorts, hmade, hperm⟩ := ih h'
      exact ⟨_, _, .right (.inl hQ) hsorts, hmade, hperm.cons _⟩

/-- Things that come to the same come to the same all together. -/
theorem map_snd_of_forall₂ {us : List (δ × β)} {T : α × β → δ × β → Prop}
    (h : List.Forall₂ (fun y u => T y u ∧ y.2 = u.2) ys us) :
    ys.map Prod.snd = us.map Prod.snd := by
  induction h with
  | nil => rfl
  | cons hy _ ih => rw [List.map_cons, List.map_cons, hy.2, ih]

/-- Things that each have one of two values are sorted by their values. -/
theorem sorts_of_values (f : α → Option β) (g : α → Option γ)
    (h : ∀ x, (f x).isSome ≠ (g x).isSome) (xs : List α) :
    ∃ ys zs, Sorts (fun x y => f x = some y) (fun x z => g x = some z) xs ys zs ∧
      ys.map Prod.snd = xs.filterMap f ∧ zs.map Prod.snd = xs.filterMap g := by
  induction xs with
  | nil => exact ⟨[], [], .nil, rfl, rfl⟩
  | cons x xs ih =>
      obtain ⟨ys, zs, hsorts, hys, hzs⟩ := ih
      have hx := h x
      cases hf : f x with
      | some y =>
          have hg : g x = none := by simpa [hf] using hx
          exact ⟨_, _, .left hf hsorts, by simp [hf, hys], by simp [hg, hzs]⟩
      | none =>
          cases hg : g x with
          | none => simp [hf, hg] at hx
          | some z => exact ⟨_, _, .right hg hsorts, by simp [hf, hys], by simp [hg, hzs]⟩

end BuildGraph
