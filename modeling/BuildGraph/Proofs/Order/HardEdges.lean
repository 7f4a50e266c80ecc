import Mathlib
import BuildGraph.Order.Basic

/-!
# The hard dependencies as a relation

`HardEdge edges ids a b` says that a `dependsOn` edge joins the considered ids `a` and `b`. The
successors and the predecessors of an id are the two sides of this relation. `Acyclic` says that no
id leads back to itself, and `FromCycle` that an id lies on a cycle or behind one. On finitely many
ids every id that is not behind a cycle is accessible, which is what the order of a run rests on.
-/

open Relation

namespace BuildGraph.Order

/-- A `dependsOn` edge joins two considered ids. -/
def HardEdge (edges : List Edge) (ids : List String) (a b : String) : Prop :=
  ⟨a, b, .dependsOn⟩ ∈ edges ∧ a ∈ ids ∧ b ∈ ids

/-- No id leads back to itself. -/
def Acyclic (edges : List Edge) (ids : List String) : Prop :=
  ∀ id, ¬ TransGen (HardEdge edges ids) id id

/-- The id lies on a cycle or can be reached from one. -/
def FromCycle (r : String → String → Prop) (id : String) : Prop :=
  ∃ c, TransGen r c c ∧ ReflTransGen r c id

variable {edges : List Edge} {ids : List String} {a b : String}

/-- A relation is hard exactly when it is `dependsOn`. -/
theorem isHard_iff {relation : Relation} : relation.isHard = true ↔ relation = .dependsOn := by
  cases relation <;> simp [Relation.isHard]

/-- The considered ids are those of the nodes that are enabled or, on demand, of all. -/
theorem mem_considered_ids {nodes : List Node} {disabledToo : Bool} {id : String} :
    id ∈ consideredIds nodes disabledToo ↔
      ∃ n ∈ nodes, (disabledToo = true ∨ n.enabled = true) ∧ n.id = id := by
  simp [consideredIds, and_assoc]

theorem considered_ids_nodup (nodes : List Node) (disabledToo : Bool) :
    (consideredIds nodes disabledToo).Nodup :=
  nodup_firsts _

/-- The first occurrences of distinct elements are all of them. -/
theorem firsts_eq_self {α : Type} [DecidableEq α] {l : List α} (h : l.Nodup) : firsts l = l := by
  induction l with
  | nil => rfl
  | cons x rest ih =>
      obtain ⟨hx, hrest⟩ := List.nodup_cons.1 h
      have hkeep : rest.filter (fun y => decide (y ≠ x)) = rest :=
        List.filter_eq_self.2 fun y hy => by simpa using fun e : y = x => hx (e ▸ hy)
      rw [firsts, ih hrest, hkeep]

/-- Under distinct ids the considered ids are the ids of the considered nodes in their order. -/
theorem considered_ids_eq {nodes : List Node} (h : (nodes.map Node.id).Nodup)
    (disabledToo : Bool) :
    consideredIds nodes disabledToo =
      (nodes.filter fun n => disabledToo || n.enabled).map Node.id :=
  firsts_eq_self (h.sublist (List.filter_sublist.map _))

@[simp]
theorem mem_successors : b ∈ successors edges ids a ↔ HardEdge edges ids a b := by
  simp only [successors, mem_firsts, List.mem_map, List.mem_filter, Bool.and_eq_true,
    beq_iff_eq, isHard_iff, List.contains_iff_mem, HardEdge]
  constructor
  · rintro ⟨⟨source, target, relation⟩, ⟨he, ⟨⟨rfl, rfl⟩, hs⟩, ht⟩, rfl⟩
    exact ⟨he, hs, ht⟩
  · rintro ⟨he, hs, ht⟩
    exact ⟨_, ⟨he, ⟨⟨rfl, rfl⟩, hs⟩, ht⟩, rfl⟩

theorem successors_nodup (edges : List Edge) (ids : List String) (a : String) :
    (successors edges ids a).Nodup :=
  nodup_firsts _

@[simp]
theorem mem_predecessors : a ∈ predecessors edges ids b ↔ HardEdge edges ids a b := by
  simp only [predecessors, List.mem_filter, List.contains_iff_mem, mem_successors]
  exact ⟨fun h => h.2, fun h => ⟨h.2.1, h⟩⟩

/-- More edges and more ids join at least the same pairs. -/
theorem HardEdge.mono {edges' : List Edge} {ids' : List String} (he : edges ⊆ edges')
    (hi : ids ⊆ ids') (h : HardEdge edges ids a b) : HardEdge edges' ids' a b :=
  ⟨he h.1, hi h.2.1, hi h.2.2⟩

/-- A walk along hard edges starts and ends at considered ids. -/
theorem mem_of_trans_gen (h : TransGen (HardEdge edges ids) a b) : a ∈ ids ∧ b ∈ ids := by
  induction h with
  | single h => exact h.2
  | tail _ h ih => exact ⟨ih.1, h.2.2⟩

section Accessible

variable {r : String → String → Prop}

/-- An accessible id does not lead back to itself. -/
theorem not_trans_gen_of_acc (h : Acc r a) : ¬ TransGen r a a := by
  have ht : Acc (TransGen r) a := h.transGen
  clear h
  induction ht with
  | intro x _ ih => exact fun hx => ih x hx hx

/-- An id behind a cycle is not accessible. -/
theorem not_acc_of_from_cycle (h : FromCycle r a) : ¬ Acc r a := by
  obtain ⟨c, hc, hca⟩ := h
  intro ha
  have hacc : Acc r c := by
    induction hca with
    | refl => exact ha
    | tail _ hstep ih => exact ih (ha.inv hstep)
  exact not_trans_gen_of_acc hacc hc

/-- When the relation starts at finitely many ids only, an id that is not behind a cycle is
accessible. -/
theorem acc_of_not_from_cycle {ids : List String} (hfinite : ∀ a b, r a b → a ∈ ids)
    (h : ¬ FromCycle r a) : Acc r a := by
  -- What leads to the element is finite, and without a cycle a finite relation is well founded.
  let Before := {c : String // ReflTransGen r c a}
  have hmem : ∀ c : Before, c.1 ∈ a :: ids := by
    rintro ⟨c, hc⟩
    rcases hc.cases_head with rfl | ⟨d, hcd, -⟩
    · exact List.mem_cons_self
    · exact List.mem_cons_of_mem _ (hfinite _ _ hcd)
  have : Finite Before :=
    Finite.of_injective (β := {c // c ∈ a :: ids}) (fun c => ⟨c.1, hmem c⟩)
      fun c d hcd => Subtype.ext (Subtype.mk.inj hcd)
  let leads : Before → Before → Prop := fun c d => TransGen r c.1 d.1
  have : IsTrans Before leads := ⟨fun _ _ _ => TransGen.trans⟩
  have : Std.Irrefl leads := ⟨fun c hc => h ⟨c.1, hc, c.2⟩⟩
  have hwf : WellFounded leads := Finite.wellFounded_of_trans_of_irrefl leads
  have hall : ∀ c : Before, Acc r c.1 := by
    intro c
    induction c using hwf.induction with
    | _ c ih => exact .intro _ fun d hd => ih ⟨d, .head hd c.2⟩ (.single hd)
  exact hall ⟨a, .refl⟩

/-- On finitely many ids, those that are accessible are those not behind a cycle. -/
theorem acc_iff_not_from_cycle {ids : List String} (hfinite : ∀ a b, r a b → a ∈ ids) :
    Acc r a ↔ ¬ FromCycle r a :=
  ⟨fun h hc => not_acc_of_from_cycle hc h, acc_of_not_from_cycle hfinite⟩

end Accessible

/-- Without cycles every id is accessible. -/
theorem Acyclic.acc (h : Acyclic edges ids) (a : String) : Acc (HardEdge edges ids) a := by
  refine acc_of_not_from_cycle (fun _ _ h => h.2.1) ?_
  rintro ⟨c, hc, -⟩
  exact h c hc

end BuildGraph.Order
