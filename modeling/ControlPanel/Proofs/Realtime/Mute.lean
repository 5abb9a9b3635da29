import ControlPanel.Proofs.Listeners.Calls
import ControlPanel.Proofs.Monitor.Watching
import ControlPanel.Proofs.Realtime.Bindings

/-!
# Listeners that bring about no events

A delivery has a result if nobody who listens brings about another event. So has then whatever one
of the parties does (`SharedClient.deed?_returns`).
-/

namespace ControlPanel

namespace Client

abbrev Mute (c : Client) : Prop := c.Ranked answer fun _ => 0

namespace Mute

variable {c : Client} {limit : Nat}

theorem withHost (mute : c.Mute) (link : Link) : Mute { c with host := link } :=
  mute.of_registry_eq rfl

theorem answers (positive : 0 < limit) : Answers limit Mute where
  withHost := fun link mute => mute.withHost link
  unsubscribe := fun channel target mute => mute.unsubscribe channel target
  clear := fun {c} _ => .clear c
  deliver := fun {c} event mute =>
    Emitter.emitWithin?_returns answer (fun _ => 0) limit 0 c event mute positive

theorem register (mute : c.Mute) {listener : Listener ClientRequest}
    (descends : ∀ calls event, (listener calls event).Descends answer (fun _ => 0) 0)
    (channel : Channel) (name : String) : Mute (c.register channel name listener).1 :=
  have subscribed : Mute (c.subscribe channel name listener).1 := mute.subscribe descends name
  subscribed.of_registry_eq rfl

theorem subscribeAll (mute : c.Mute) {listeners : List (Channel × Listener ClientRequest)}
    (descends : ∀ entry ∈ listeners, ∀ calls event,
      (entry.2 calls event).Descends answer (fun _ => 0) 0) :
    (c.subscribeAll listeners).1.Mute := by
  induction listeners generalizing c with
  | nil => exact mute
  | cons entry rest ih =>
    obtain ⟨own, others⟩ := List.forall_mem_cons.mp descends
    exact ih (mute.register own entry.1 "") others

theorem release (mute : c.Mute) (subscriptions : Subscriptions) :
    (c.release subscriptions).Mute := by
  induction subscriptions generalizing c with
  | nil => exact mute
  | cons entry rest ih => exact ih (mute.unsubscribe entry.1 (.id entry.2))

end Mute

end Client

theorem Client.descends_ask {request : ClientRequest}
    (quiet : ∀ link, (Client.answer request link).2.2 = none) :
    (Reaction.ask request fun _ => .done).Descends Client.answer (fun _ => 0) 0 :=
  ⟨fun link _ told => (nomatch (quiet link).symm.trans told), fun _ => trivial⟩

theorem Binding.descends_listeners (id : Nat) : ∀ entry ∈ listeners id, ∀ calls event,
    (entry.2 calls event).Descends Client.answer (fun _ => 0) 0 := by
  intro entry listed calls event
  simp only [listeners, List.mem_cons, List.not_mem_nil, or_false] at listed
  rcases listed with rfl | rfl | rfl
  · exact Client.descends_ask fun _ => rfl
  · exact Client.descends_ask fun _ => rfl
  · cases event with
    | error => exact Client.descends_ask fun _ => rfl
    | _ => trivial

namespace SharedClient

def Deed.IsMute : Deed → Prop
  | act (.subscribe _ _ listener) =>
    ∀ calls event, (listener calls event).Descends Client.answer (fun _ => 0) 0
  | _ => True

theorem deed?_returns {limit : Nat} {u : SharedClient} {deed : Deed} (mute : u.client.Mute)
    (positive : 0 < limit) (isMute : deed.IsMute) :
    ∃ u', u.deed? limit deed = some u' ∧ u'.client.Mute := by
  cases deed with
  | attach autoConnect =>
    have bound : (Binding.hosted u.client).Mute := mute.withHost _
    have attached := bound.subscribeAll (Binding.descends_listeners u.client.host.bindings.length)
    exact ⟨_, rfl, attached.of_registry_eq (Binding.attach_registry u.client autoConnect)⟩
  | act action =>
    refine step?_returns (Client.Mute.answers positive) mute ?_
    rintro channel name listener rfl
    exact mute.subscribe isMute name

end SharedClient

end ControlPanel
