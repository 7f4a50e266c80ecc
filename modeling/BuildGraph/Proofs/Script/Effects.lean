import BuildGraph.Proofs.Script.Ensured
import BuildGraph.Script.Block

/-!
# What readings of a statement do to a block

A call that relates a task to others adds the tasks that its arguments name, and remarks on the
arguments that name none (`methodCall_cases`). Whatever else is read in a statement leaves the name
and the relations of the block alone, and remarks on guards only: its effect is `Neutral`.
-/

namespace BuildGraph.Script

open Recognizer

variable {text : String} {tokens args : List Token} {c c' : Cursor} {effect : Effect}

section Neutral

/-- An effect that neither names nor relates a task, and that remarks on guards alone. -/
structure Neutral (effect : Effect) : Prop where
  name : ∀ b, (effect.apply b).name = b.name
  line : ∀ b, (effect.apply b).line = b.line
  relations : ∀ b, (effect.apply b).relations = b.relations
  warnings : ∀ w ∈ effect.warnings, ∃ raw, w = .unreadableGuard raw

/-- An effect of something that was understood to its end is neutral. -/
structure Simple (effect : Effect) : Prop extends Neutral effect where
  complete : effect.complete = true

/-- A change of the settings is simple. -/
theorem simple_setting (apply : Settings → Settings) : Simple (setting apply) where
  name _ := rfl
  line _ := rfl
  relations _ := rfl
  warnings := List.forall_mem_nil _
  complete := rfl

/-- A change of other fields is simple if it leaves alone what it has to. -/
theorem simple_changing {apply : Block → Block} (hname : ∀ b, (apply b).name = b.name)
    (hline : ∀ b, (apply b).line = b.line) (hrelations : ∀ b, (apply b).relations = b.relations) :
    Simple (changing apply) where
  name := hname
  line := hline
  relations := hrelations
  warnings := List.forall_mem_nil _
  complete := rfl

theorem simple_textProperty? {property : String} {effect : String → Effect}
    (h : textProperty? property = some effect) (value : String) : Simple (effect value) := by
  unfold textProperty? at h
  split_ifs at h <;> cases h <;>
    first
    | exact simple_setting _
    | exact simple_changing (fun _ => rfl) (fun _ => rfl) fun _ => rfl

theorem simple_booleanProperty? {property : String} {effect : Bool → Effect}
    (h : booleanProperty? property = some effect) (value : Bool) : Simple (effect value) := by
  unfold booleanProperty? at h
  split_ifs at h <;> cases h <;>
    first
    | exact simple_setting _
    | exact simple_changing (fun _ => rfl) (fun _ => rfl) fun _ => rfl

theorem simple_integerProperty? {property : String} {effect : Int → Effect}
    (h : integerProperty? property = some effect) (value : Int) : Simple (effect value) := by
  unfold integerProperty? at h
  split_ifs at h <;> cases h <;> exact simple_setting _

theorem simple_listCall? {method : String} {effect : List String → Effect}
    (h : listCall? method = some effect) (values : List String) : Simple (effect values) := by
  unfold listCall? at h
  split_ifs at h <;> cases h <;> exact simple_setting _

theorem simple_valueCall? {method : String} (h : valueCall? method args = some effect) :
    Simple effect := by
  unfold valueCall? at h
  split_ifs at h
  · obtain ⟨value, -, rfl⟩ := Option.map_eq_some_iff.1 h
    exact simple_setting _
  · obtain ⟨value, -, rfl⟩ := Option.map_eq_some_iff.1 h
    exact simple_setting _
  · split at h
    · cases h
      exact simple_setting _
    · cases h

end Neutral

section Readings

theorem yields_setting {α : Type} {r : Recognizer α} {apply : α → Settings → Settings} :
    Yields (r >>= fun a => pure (setting (apply a))) Simple :=
  yields_bind fun _ => yields_pure (simple_setting _)

theorem yields_propertyValue (property : String) : Yields (propertyValue property) Simple := by
  unfold propertyValue
  split_ifs
  · exact yields_bind fun _ => yields_bind fun _ => yields_bind fun _ => yields_setting
  · exact yields_setting
  · exact yields_setting
  · exact yields_bind fun _ => yields_pure
      (simple_changing (fun _ => rfl) (fun _ => rfl) fun _ => rfl)
  · split
    · next heffect =>
        exact yields_bind fun value => yields_pure (simple_textProperty? heffect value)
    · next heffect =>
        exact yields_bind fun value => yields_pure (simple_booleanProperty? heffect value)
    · next heffect =>
        exact yields_bind fun value => yields_pure (simple_integerProperty? heffect value)
    · exact ensures_absent

theorem yields_assignment : Yields assignment Simple :=
  yields_bind fun property => yields_bind fun _ => yields_propertyValue property

theorem yields_setterCall : Yields setterCall Simple := by
  refine yields_bind fun property => yields_bind fun _ => yields_bind fun _ =>
    yields_bind fun args => ?_
  split_ifs
  · exact yields_bind fun _ => yields_pure
      (simple_changing (fun _ => rfl) (fun _ => rfl) fun _ => rfl)
  · exact yields_setting
  · exact yields_setting
  · exact ensures_absent

theorem yields_guardStatement (text : String) (declared : List String) :
    Yields (guardStatement text declared) Simple := by
  refine yields_bind fun _ => yields_bind fun body => yields_bind fun _ => ?_
  split
  · exact yields_pure (simple_changing (fun _ => rfl) (fun _ => rfl) fun _ => rfl)
  · exact yields_pure ⟨⟨fun _ => rfl, fun _ => rfl, fun _ => rfl, by simp⟩, rfl⟩

theorem yields_compilerOption : Yields compilerOption Neutral := by
  refine yields_bind fun property => Yields.bind (P := Neutral) ?_ fun effect heffect c _ =>
    ⟨trivial, heffect.name, heffect.line, heffect.relations, heffect.warnings⟩
  refine Ensures.weaken (P := Simple) ?_ fun _ h => h.toNeutral
  split_ifs
  · exact yields_bind fun _ => yields_setting
  · exact yields_bind fun _ => yields_setting
  · exact yields_bind fun _ => yields_setting
  · exact yields_bind fun _ => yields_bind fun _ => yields_bind fun _ => yields_setting
  · exact ensures_absent

theorem neutral_compilerOptions (statements : List (List Token)) :
    Neutral (compilerOptions statements) := by
  induction statements with
  | nil => exact (simple_changing (fun _ => rfl) (fun _ => rfl) fun _ => rfl).toNeutral
  | cons tokens statements ih =>
      rw [compilerOptions]
      split
      · next effect rest hfound =>
          have heffect := yields_compilerOption.found hfound
          split_ifs
          · exact {
              name := fun b => (ih.name _).trans (heffect.name b)
              line := fun b => (ih.line _).trans (heffect.line b)
              relations := fun b => (ih.relations _).trans (heffect.relations b)
              warnings := ih.warnings }
          · exact heffect
      · exact ⟨fun _ => rfl, fun _ => rfl, fun _ => rfl, List.forall_mem_nil _⟩

theorem yields_optionsStatement : Yields optionsStatement Neutral := by
  refine yields_bind fun _ => yields_bind fun _ => Yields.orElse ?_ yields_compilerOption
  refine yields_bind fun _ => yields_bind fun body c _ => ?_
  cases hsplit : split body with
  | error cause => trivial
  | ok statements => exact ⟨trivial, neutral_compilerOptions statements⟩

end Readings

section Calls

/-- A call that relates the task to others: how it does, and its arguments. -/
def relationCall : Recognizer (Relation × List (List Token)) := do
  let method ← anyIdent
  let args ← group "("
  let relation ← ofOption (ofName? method)
  return (relation, splitArguments args)

theorem bind_eq_found_iff {α β : Type} {r : Recognizer α} {f : α → Recognizer β} {b : β} :
    (r >>= f) c = .found b c' ↔ ∃ a rest, r c = .found a rest ∧ f a rest = .found b c' := by
  change andThen r f c = _ ↔ _
  rw [andThen]
  cases r c <;> simp

theorem ofOption_eq_found_iff {α : Type} {o : Option α} {a : α} :
    ofOption o c = .found a c' ↔ o = some a ∧ c = c' := by
  cases o with
  | none => simp [ofOption, absent]
  | some b => simp [ofOption, find]

/-- A call that relates the task is read as such. -/
theorem methodCall_of_relationCall {relation : Relation} {args : List (List Token)}
    (h : relationCall c = .found (relation, args) c') (text : String) :
    methodCall text c = .found (relating text relation args) c' := by
  obtain ⟨method, behind, hident, h⟩ := bind_eq_found_iff.1 h
  obtain ⟨inner, rest, hgroup, h⟩ := bind_eq_found_iff.1 h
  obtain ⟨relation', rest', hname, h⟩ := bind_eq_found_iff.1 h
  obtain ⟨hmethod, rfl⟩ := ofOption_eq_found_iff.1 hname
  cases h
  refine bind_eq_found_iff.2 ⟨method, behind, hident, bind_eq_found_iff.2 ⟨inner, _, hgroup, ?_⟩⟩
  simp only [hmethod]
  rfl

/-- Any other call that is read has a simple effect. -/
theorem methodCall_cases (h : methodCall text c = .found effect c') :
    (∃ relation args, relationCall c = .found (relation, args) c' ∧
      effect = relating text relation args) ∨ Simple effect := by
  obtain ⟨method, behind, hident, h⟩ := bind_eq_found_iff.1 h
  obtain ⟨inner, rest, hgroup, h⟩ := bind_eq_found_iff.1 h
  cases hmethod : (ofName? method : Option Relation) with
  | some relation =>
      simp only [hmethod] at h
      cases h
      refine .inl ⟨relation, splitArguments inner, ?_, rfl⟩
      refine bind_eq_found_iff.2 ⟨method, behind, hident, bind_eq_found_iff.2 ⟨inner, _, hgroup,
        bind_eq_found_iff.2 ⟨relation, _, ofOption_eq_found_iff.2 ⟨hmethod, rfl⟩, rfl⟩⟩⟩
  | none =>
      simp only [hmethod] at h
      refine .inr ?_
      cases hlist : listCall? method with
      | some add =>
          simp only [hlist] at h
          obtain ⟨values, rest', -, h⟩ := bind_eq_found_iff.1 h
          cases h
          exact simple_listCall? hlist values
      | none =>
          simp only [hlist] at h
          exact simple_valueCall? (ofOption_eq_found_iff.1 h).1

/-- The relations in a statement, each with the tokens of an argument. -/
def relationArguments (tokens : List Token) : List (Relation × List Token) :=
  match relationCall ⟨tokens, 0⟩ with
  | .found (relation, args) _ => args.map (relation, ·)
  | _ => []

end Calls

end BuildGraph.Script
