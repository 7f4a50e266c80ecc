/-!
# Listeners

Listeners hear of every event, in the order in which they were registered. A listener may be
registered more than once. One that fails, or is removed while an event is delivered, keeps no other
from hearing it.

Main definitions: `Listeners.unsubscribe`, `Listeners.emit`.
-/

namespace BuildGraph

/-- What a listener does when it hears of an event. -/
inductive Reaction where
  | listen
  /-- Fails after it heard. -/
  | fail
  /-- Ends its registration. -/
  | leave
  deriving DecidableEq, Repr

/-- The registered listeners, in order. -/
structure Listeners (α : Type) where
  registered : List α := []
  deriving DecidableEq, Repr

namespace Listeners

variable {α : Type} [DecidableEq α]

/-- Registers a listener. -/
def subscribe (s : Listeners α) (listener : α) : Listeners α :=
  ⟨s.registered ++ [listener]⟩

/-- Ends a registration of a listener, its first one, if it has any. -/
def unsubscribe (s : Listeners α) (listener : α) : Listeners α := ⟨s.registered.erase listener⟩

/-- Takes note of what a listener did. -/
def react (s : Listeners α) (listener : α) : Reaction → Listeners α
  | .leave => s.unsubscribe listener
  | _ => s

/-- Delivers an event: who heard it, in order, and who is registered afterwards. Those who were
registered when it began hear it. -/
def emit (s : Listeners α) (reaction : α → Reaction) : List α × Listeners α :=
  (s.registered, s.registered.foldl (fun s listener => s.react listener (reaction listener)) s)

end Listeners

end BuildGraph
