import ControlPanel.Channel.Event

/-!
# What listeners do

A listener may do anything when it is called: register and remove listeners, emit events, ask its
host for something, or panic. `Reaction` describes what it does step by step, where each step may
depend on the answers to those before, and `Listener` says which reaction follows which call.
-/

namespace ControlPanel

/-- Which registrations of a channel are meant. A name means the newest registration under it. -/
inductive Target where
  | all
  | id (id : Nat)
  | named (name : String)

/-- What a listener does, where `ρ` is what it may ask its host for. A step that has an answer
goes on with it. -/
inductive Reaction (ρ : Type) where
  | done
  | panic
  | subscribe (channel : Channel) (name : String) (listener : Nat → Event → Reaction ρ)
      (next : Nat → Reaction ρ)
  | unsubscribe (channel : Channel) (target : Target) (next : Nat → Reaction ρ)
  | emit (event : Event) (next : Nat → Reaction ρ)
  | count (channel : Channel) (next : Nat → Reaction ρ)
  | clear (next : Reaction ρ)
  | ask (request : ρ) (next : Nat → Reaction ρ)

/-- The reaction to a call, by how often the listener was called before and by the event. -/
abbrev Listener (ρ : Type) := Nat → Event → Reaction ρ

namespace Listener

variable {ρ : Type}

def silent : Listener ρ := fun _ _ => .done

/-- Listens to the payloads of a topic of which something can be read; others are skipped. -/
def typed {α : Type} (read : Json → Option α) (listener : α → Reaction ρ) : Listener ρ :=
  fun _ event => ((event.value? read).map listener).getD .done

def limited (times : Nat) (listener : Listener ρ) : Listener ρ := fun calls event =>
  if calls < times then listener calls event else .done

end Listener

end ControlPanel
