import Mathlib
import BuildGraph.Run.Listeners

/-!
# Registrations of listeners

A `Registry` numbers the registrations of listeners and remembers which of them have ended, by a
call of the function that was returned for them or because their listener left. Those that have not
ended are the ones that should hear of an event. `registrations_independent` says of which listeners
this is so: of all those for whom no function of one registration was called while another one
lasted. `ended_twice` is a listener with two registrations for whom it is not.
-/

namespace BuildGraph

variable {α : Type} [DecidableEq α]

/-- A use of the listeners. -/
inductive ListenerCall (α : Type) where
  | subscribe (listener : α)
  /-- Calls the function that was returned for a registration, which are numbered. -/
  | cancel (number : Nat)
  | emit (reaction : α → Reaction)

/-- Listeners, with the registrations they come from. -/
structure Registry (α : Type) where
  listeners : Listeners α := {}
  /-- The listeners that were registered, in order. -/
  made : List α := []
  /-- The registrations that have not ended, with their listeners. -/
  lasting : List (Nat × α) := []

namespace Registry

/-- Carries out a call. A listener that leaves ends its registrations. -/
def take (r : Registry α) : ListenerCall α → Registry α
  | .subscribe listener => {
      listeners := r.listeners.subscribe listener
      made := r.made ++ [listener]
      lasting := r.lasting ++ [(r.made.length, listener)] }
  | .cancel number =>
    match r.made[number]? with
    | some listener => { r with
        listeners := r.listeners.unsubscribe listener
        lasting := r.lasting.filter fun q => q.1 ≠ number }
    | none => r
  | .emit reaction => { r with
      listeners := (r.listeners.emit reaction).2
      lasting := r.lasting.filter fun q => reaction q.2 ≠ .leave }

/-- A call of a function finds no other lasting registration of the same listener, if the listener
is one of the given ones. -/
def Apart (r : Registry α) (chosen : α → Bool) : ListenerCall α → Prop
  | .cancel number => ∀ listener, r.made[number]? = some listener → chosen listener = true →
      ∀ q ∈ r.lasting, q.1 ≠ number → q.2 ≠ listener
  | _ => True

/-- What calls lead to. -/
inductive Reached (chosen : α → Bool) : Registry α → Prop
  | start : Reached chosen {}
  | taken {r : Registry α} (h : Reached chosen r) (call : ListenerCall α)
      (apart : r.Apart chosen call) : Reached chosen (r.take call)

/-- The chosen listeners are registered as often as their registrations last, in their order. -/
structure Agrees (r : Registry α) (chosen : α → Bool) : Prop where
  registered : r.listeners.registered.filter chosen = (r.lasting.map Prod.snd).filter chosen
  numbered : ∀ q ∈ r.lasting, r.made[q.1]? = some q.2
  distinct : (r.lasting.map Prod.fst).Nodup

section Lists

variable {chosen : α → Bool} {listener : α} {lasting : List (Nat × α)} {number : Nat}

/-- One that is not chosen is not missed among the chosen ones. -/
theorem filter_erase_other (h : chosen listener = false) (registered : List α) :
    (registered.erase listener).filter chosen = registered.filter chosen := by
  induction registered with
  | nil => rfl
  | cons first rest ih =>
      by_cases heq : first = listener
      · subst heq
        simp [h]
      · rw [List.erase_cons_tail (by simpa using heq), List.filter_cons, List.filter_cons, ih]

theorem filter_erase_chosen (h : chosen listener = true) (registered : List α) :
    (registered.erase listener).filter chosen = (registered.filter chosen).erase listener := by
  induction registered with
  | nil => rfl
  | cons first rest ih =>
      by_cases heq : first = listener
      · subst heq
        simp [h]
      · rw [List.erase_cons_tail (by simpa using heq), List.filter_cons, List.filter_cons, ih]
        split_ifs
        · exact (List.erase_cons_tail (by simpa using heq)).symm
        · rfl

/-- Where a listener has no other registration, its first one is the one that ends. -/
theorem erase_lasting (hown : ∀ q ∈ lasting, q.1 = number → q.2 = listener)
    (hothers : ∀ q ∈ lasting, q.1 ≠ number → q.2 ≠ listener)
    (hdistinct : (lasting.map Prod.fst).Nodup) :
    (lasting.map Prod.snd).erase listener =
      (lasting.filter fun q => q.1 ≠ number).map Prod.snd := by
  induction lasting with
  | nil => rfl
  | cons q rest ih =>
      rw [List.map_cons, List.nodup_cons] at hdistinct
      rw [List.map_cons]
      by_cases hq : q.1 = number
      · have hrest : rest.filter (fun q => q.1 ≠ number) = rest := by
          refine List.filter_eq_self.2 fun other hother => ?_
          have hne : other.1 ≠ number := by
            rintro rfl
            exact hdistinct.1 (hq ▸ List.mem_map_of_mem hother)
          simpa using hne
        rw [hown q List.mem_cons_self hq, List.erase_cons_head,
          List.filter_cons_of_neg (by simp [hq]), hrest]
      · rw [List.erase_cons_tail (by simpa using hothers q List.mem_cons_self hq),
          List.filter_cons_of_pos (by simpa using hq), List.map_cons,
          ih (fun other hother => hown other (List.mem_cons_of_mem _ hother))
            (fun other hother => hothers other (List.mem_cons_of_mem _ hother)) hdistinct.2]

end Lists

section Steps

variable {r : Registry α} {chosen : α → Bool}

/-- While an event is delivered, those who have heard of it stay unless they leave. -/
theorem registered_foldl_react (reaction : α → Reaction) {stayed : List α} (more : List α)
    (hstayed : ∀ listener ∈ stayed, reaction listener ≠ .leave) :
    (more.foldl (fun s listener => s.react listener (reaction listener))
      (⟨stayed ++ more⟩ : Listeners α)).registered =
        stayed ++ more.filter fun listener => reaction listener ≠ .leave := by
  induction more generalizing stayed with
  | nil => rfl
  | cons listener more ih =>
      rw [List.foldl_cons]
      by_cases hleave : reaction listener = .leave
      · have hnew : listener ∉ stayed := fun hmem => hstayed listener hmem hleave
        have hreact : Listeners.react ⟨stayed ++ listener :: more⟩ listener (reaction listener) =
            (⟨stayed ++ more⟩ : Listeners α) := by
          rw [hleave]
          show Listeners.mk ((stayed ++ listener :: more).erase listener) = _
          rw [List.erase_append_right _ hnew, List.erase_cons_head]
        rw [hreact, ih hstayed, List.filter_cons_of_neg (by simp [hleave])]
      · have hreact : Listeners.react ⟨stayed ++ listener :: more⟩ listener (reaction listener) =
            (⟨(stayed ++ [listener]) ++ more⟩ : Listeners α) := by
          rw [List.append_assoc]
          unfold Listeners.react
          split
          · next heq => exact absurd heq hleave
          · rfl
        have hstays : ∀ other ∈ stayed ++ [listener], reaction other ≠ .leave :=
          List.forall_mem_append.2 ⟨hstayed, List.forall_mem_singleton.2 hleave⟩
        rw [hreact, ih hstays, List.filter_cons_of_pos (by simpa using hleave), List.append_assoc]
        rfl

/-- Delivering an event ends the registrations of those who leave, however the others react. -/
theorem registered_emit (s : Listeners α) (reaction : α → Reaction) :
    (s.emit reaction).2.registered =
      s.registered.filter fun listener => reaction listener ≠ .leave :=
  registered_foldl_react reaction s.registered fun _ hmem => absurd hmem List.not_mem_nil

/-- A new registration lasts. -/
theorem Agrees.subscribe (h : r.Agrees chosen) (listener : α) :
    (r.take (.subscribe listener)).Agrees chosen where
  registered := by
    show (r.listeners.registered ++ [listener]).filter chosen =
      ((r.lasting ++ [(r.made.length, listener)]).map Prod.snd).filter chosen
    rw [List.map_append, List.filter_append, List.filter_append, h.registered]
    rfl
  numbered := by
    refine List.forall_mem_append.2 ⟨fun q hq => ?_, List.forall_mem_singleton.2 ?_⟩
    · have hlt : q.1 < r.made.length := (List.getElem?_eq_some_iff.1 (h.numbered q hq)).1
      show (r.made ++ [listener])[q.1]? = some q.2
      rw [List.getElem?_append_left hlt]
      exact h.numbered q hq
    · exact List.getElem?_concat_length
  distinct := by
    show ((r.lasting ++ [_]).map Prod.fst).Nodup
    rw [List.map_append, List.nodup_append]
    refine ⟨h.distinct, List.nodup_singleton _, ?_⟩
    intro number hnumber other hother heq
    obtain ⟨q, hq, rfl⟩ := List.mem_map.1 hnumber
    have hlt : q.1 < r.made.length := (List.getElem?_eq_some_iff.1 (h.numbered q hq)).1
    have hlast : other = r.made.length := List.mem_singleton.1 hother
    omega

/-- A function that is called ends the registration it was returned for, if it lasts. -/
theorem Agrees.cancel (h : r.Agrees chosen) {number : Nat}
    (hapart : r.Apart chosen (.cancel number)) : (r.take (.cancel number)).Agrees chosen := by
  cases hmade : r.made[number]? with
  | none =>
      have htake : r.take (.cancel number) = r := by simp [take, hmade]
      rwa [htake]
  | some listener =>
      have htake : r.take (.cancel number) = { r with
          listeners := r.listeners.unsubscribe listener
          lasting := r.lasting.filter fun q => q.1 ≠ number } := by simp [take, hmade]
      have hown : ∀ q ∈ r.lasting, q.1 = number → q.2 = listener := by
        rintro q hq rfl
        exact Option.some.inj ((h.numbered q hq).symm.trans hmade)
      rw [htake]
      refine ⟨?_, fun q hq => h.numbered q (List.mem_filter.1 hq).1,
        h.distinct.sublist (List.filter_sublist.map Prod.fst)⟩
      show (r.listeners.registered.erase listener).filter chosen = _
      cases hchosen : chosen listener with
      | false =>
          rw [filter_erase_other hchosen, h.registered, List.filter_map, List.filter_map,
            List.filter_filter]
          -- whatever registration goes, its listener is not chosen
          refine congrArg (List.map Prod.snd) (List.filter_congr fun q hq => ?_)
          by_cases hnumber : q.1 = number
          · simp [hown q hq hnumber, hchosen]
          · simp [hnumber]
      | true =>
          have hothers := hapart listener hmade hchosen
          rw [filter_erase_chosen hchosen, h.registered, ← filter_erase_chosen hchosen,
            erase_lasting hown hothers h.distinct]

theorem Agrees.emit (h : r.Agrees chosen) (reaction : α → Reaction) :
    (r.take (.emit reaction)).Agrees chosen where
  registered := by
    show (r.listeners.emit reaction).2.registered.filter chosen =
      ((r.lasting.filter fun q => reaction q.2 ≠ .leave).map Prod.snd).filter chosen
    have hlasting : (r.lasting.filter fun q => reaction q.2 ≠ .leave).map Prod.snd =
        (r.lasting.map Prod.snd).filter fun listener => reaction listener ≠ .leave := by
      rw [List.filter_map]
      rfl
    rw [registered_emit, List.filter_comm, h.registered, hlasting, List.filter_comm]
  numbered q hq := h.numbered q (List.mem_filter.1 hq).1
  distinct := h.distinct.sublist (List.filter_sublist.map Prod.fst)

/-- The chosen listeners stay registered as often as their registrations last. -/
theorem Reached.agrees (h : Reached chosen r) : r.Agrees chosen := by
  induction h with
  | start => exact ⟨rfl, fun q hq => absurd hq List.not_mem_nil, List.nodup_nil⟩
  | taken _ call hapart ih =>
      cases call with
      | subscribe listener => exact ih.subscribe listener
      | cancel number => exact ih.cancel hapart
      | emit reaction => exact ih.emit reaction

end Steps

end Registry

/-- An event is heard, in the order of the registrations and whatever anyone does when it hears of
it, exactly once for every lasting registration of a listener for whom no function of one
registration was called while another lasted; and to call a function again changes nothing for such
listeners. -/
theorem registrations_independent {chosen : α → Bool} {r : Registry α}
    (h : Registry.Reached chosen r) :
    (∀ reaction, (r.listeners.emit reaction).1.filter chosen =
      (r.lasting.map Prod.snd).filter chosen) ∧
    ∀ number, number ∉ r.lasting.map Prod.fst → r.Apart chosen (.cancel number) →
      (r.take (.cancel number)).lasting = r.lasting ∧
        (r.take (.cancel number)).listeners.registered.filter chosen =
          r.listeners.registered.filter chosen := by
  refine ⟨fun _ => h.agrees.registered, fun number hended hapart => ?_⟩
  have hsame : (r.take (.cancel number)).lasting = r.lasting := by
    unfold Registry.take
    dsimp only
    split
    · refine List.filter_eq_self.2 fun q hq => ?_
      have hne : q.1 ≠ number := by
        rintro rfl
        exact hended (List.mem_map_of_mem hq)
      simpa using hne
    · rfl
  refine ⟨hsame, ?_⟩
  rw [(h.agrees.cancel hapart).registered, hsame, h.agrees.registered]

/-- Of three listeners one is cancelled and one leaves. -/
theorem registrations_independent_leaving :
    let three : Registry Nat :=
      (({} : Registry Nat).take (.subscribe 0)).take (.subscribe 1) |>.take (.subscribe 2)
    let r := (three.take (.cancel 1)).take (.emit fun n => if n = 0 then .leave else .fail)
    Registry.Reached (fun _ => true) r ∧ r.lasting = [(2, 2)] ∧
      (r.listeners.emit fun _ => .listen).1.filter (fun _ => true) =
        (r.lasting.map Prod.snd).filter (fun _ => true) ∧
      (r.take (.cancel 1)).lasting = r.lasting := by
  intro three r
  have hthree : Registry.Reached (fun _ => true) three :=
    ((Registry.Reached.start.taken (.subscribe 0) trivial).taken (.subscribe 1) trivial).taken
      (.subscribe 2) trivial
  have hapart : three.Apart (fun _ => true) (.cancel 1) := by
    intro listener hlistener _
    obtain rfl : 1 = listener := Option.some.inj hlistener
    decide
  have hreached : Registry.Reached (fun _ => true) r :=
    (hthree.taken _ hapart).taken (.emit _) trivial
  have hagain : r.Apart (fun _ => true) (.cancel 1) := by
    intro listener hlistener _
    obtain rfl : 1 = listener := Option.some.inj hlistener
    decide
  obtain ⟨hheard, hsame⟩ := registrations_independent hreached
  exact ⟨hreached, by decide, hheard _, (hsame 1 (by decide) hagain).1⟩

/-- A listener is registered twice, and the function of its first registration is called twice: the
second registration lasts, and the listener hears nothing. -/
theorem ended_twice :
    let calls : List (ListenerCall Nat) := [.subscribe 0, .subscribe 0, .cancel 0, .cancel 0]
    let r := calls.foldl Registry.take {}
    r.lasting = [(1, 0)] ∧ (r.listeners.emit fun _ => .listen).1 = [] := by
  decide

end BuildGraph
