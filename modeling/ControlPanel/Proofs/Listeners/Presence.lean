import ControlPanel.Proofs.Listeners.Delivery
import ControlPanel.Proofs.Listeners.Roll

/-!
# Listeners that stay

A registration that no reaction removes is called once for every event that is delivered on its
channel. Where reactions emit nothing, and their host has no events either, deliveries do not nest,
so the calls of a delivery are those of the listeners registered when it begins and no others
(`Emitter.emitWithin?_calm`).
-/

namespace ControlPanel

variable {ρ σ : Type}

/-! ## Reactions -/

def Target.Spares (registration : Registration (Listener ρ)) : Target → Prop
  | .all => False
  | .id number => number ≠ registration.id
  | .named name => name ≠ registration.name

namespace Reaction

/-- A registration on a channel is not removed, by the listeners that are registered either. -/
def Spares (channel : Channel) (registration : Registration (Listener ρ)) : Reaction ρ → Prop
  | .done => True
  | .panic => True
  | .subscribe _ _ listener next =>
    (∀ calls event, (listener calls event).Spares channel registration) ∧
      ∀ id, (next id).Spares channel registration
  | .unsubscribe other target next => (other = channel → target.Spares registration) ∧
      ∀ removed, (next removed).Spares channel registration
  | .emit _ next => ∀ called, (next called).Spares channel registration
  | .count _ next => ∀ count, (next count).Spares channel registration
  | .clear _ => False
  | .ask _ next => ∀ answer, (next answer).Spares channel registration

/-- No event is emitted, by the listeners that are registered either. -/
def Quiet : Reaction ρ → Prop
  | .done => True
  | .panic => True
  | .subscribe _ _ listener next =>
    (∀ calls event, (listener calls event).Quiet) ∧ ∀ id, (next id).Quiet
  | .unsubscribe _ _ next => ∀ removed, (next removed).Quiet
  | .emit _ _ => False
  | .count _ next => ∀ count, (next count).Quiet
  | .clear next => next.Quiet
  | .ask _ next => ∀ answer, (next answer).Quiet

end Reaction

namespace Emitter

/-! ## Emitters with a roll -/

def Kept (s : Emitter ρ σ) : Prop := ∃ roll, Refines s roll

namespace Kept

variable {s s' : Emitter ρ σ} {host : Host ρ σ}

theorem start (host : σ) : (Emitter.start host : Emitter ρ σ).Kept := ⟨_, .start host⟩

theorem subscribe (kept : s.Kept) (channel : Channel) (name : String) (listener : Listener ρ) :
    (s.subscribe channel name listener).1.Kept := by
  obtain ⟨roll, same⟩ := kept
  exact ⟨_, (same.subscribe channel name listener).1⟩

theorem unsubscribe (kept : s.Kept) (channel : Channel) (target : Target) :
    (s.unsubscribe channel target).1.Kept := by
  obtain ⟨roll, same⟩ := kept
  exact ⟨_, (same.unsubscribe channel target).1⟩

theorem clear (kept : s.Kept) : s.clear.Kept := by
  obtain ⟨roll, same⟩ := kept
  exact ⟨_, same.clear⟩

theorem withHost (kept : s.Kept) (host : σ) : Kept { s with host } := by
  obtain ⟨roll, same⟩ := kept
  exact ⟨_, same.withHost host⟩

theorem withCall (kept : s.Kept) (call : Invocation) :
    Kept { s with calls := s.calls ++ [call] } := by
  obtain ⟨roll, same⟩ := kept
  exact ⟨_, same.withCall call⟩

theorem withEvent (kept : s.Kept) (event : Event) :
    Kept { s with emitted := s.emitted ++ [event] } := by
  obtain ⟨roll, same⟩ := kept
  exact ⟨_, same.withEvent event⟩

theorem distinct (kept : s.Kept) : s.registry.Distinct := by
  obtain ⟨roll, same⟩ := kept
  exact same.distinct

theorem emitWithin? (kept : s.Kept) {limit depth : Nat} {event : Event} {called : Nat}
    (delivered : emitWithin? host limit depth s event = some (s', called)) : s'.Kept := by
  obtain ⟨roll, same⟩ := kept
  have both := simulates_emitWithin? host limit depth s roll event same
  rw [delivered] at both
  obtain ⟨last, _, agree⟩ := rel_some both
  exact ⟨_, agree.1⟩

theorem ask? (kept : s.Kept) {limit : Nat} {request : ρ} {answer : Nat}
    (asked : s.ask? host limit request = some (s', answer)) : s'.Kept := by
  obtain ⟨roll, same⟩ := kept
  have both : Option.Rel Agree (s.ask? host limit request) _ :=
    (simulates_emitWithin? host limit 0).askWith? same request
  rw [asked] at both
  obtain ⟨last, _, agree⟩ := rel_some both
  exact ⟨_, agree.1⟩

end Kept

/-! ## Registrations that are not removed -/

theorem meant?_ne_all {s : Emitter ρ σ} {target : Target}
    {registration : Registration (Listener ρ)} (spares : target.Spares registration) :
    s.meant? target ≠ some .none := by
  cases target with
  | all => exact spares.elim
  | id id => simp [meant?]
  | named name => simp [meant?]

/-- A name stands for a registration under it, so other names do not stand for one. -/
theorem Kept.meant?_ne {s : Emitter ρ σ} (kept : s.Kept) {channel : Channel} {target : Target}
    {registration : Registration (Listener ρ)} (here : registration ∈ s.registry.on channel)
    (spares : target.Spares registration) : s.meant? target ≠ some (some registration.id) := by
  cases target with
  | all => exact spares.elim
  | id id =>
    intro meant
    exact spares (Option.some.inj (Option.some.inj meant))
  | named name =>
    intro meant
    obtain ⟨roll, same⟩ := kept
    obtain ⟨id, found, own⟩ := Option.map_eq_some_iff.mp meant
    cases own
    rw [same.names] at found
    exact spares ((same.named name _ found).2 _ (same.mem_entries here) rfl).symm

structure Held (channel : Channel) (registration : Registration (Listener ρ))
    (s : Emitter ρ σ) : Prop where
  here : registration ∈ s.registry.on channel
  spared : ∀ other, ∀ r ∈ s.registry.on other, ∀ calls event,
    (r.listener calls event).Spares channel registration

namespace Held

variable {s s' : Emitter ρ σ} {channel : Channel} {registration : Registration (Listener ρ)}

theorem of_registry_eq (held : s.Held channel registration)
    (same : s'.registry = s.registry) : s'.Held channel registration :=
  ⟨same ▸ held.here, same ▸ held.spared⟩

theorem subscribe (held : s.Held channel registration) {other : Channel}
    {listener : Listener ρ}
    (spares : ∀ calls event, (listener calls event).Spares channel registration) (name : String) :
    (s.subscribe other name listener).1.Held channel registration := by
  constructor
  · refine (Registry.on_subscribe other channel name listener).symm ▸ ?_
    split
    · exact List.mem_append_left _ held.here
    · exact held.here
  · exact forall_on_subscribe (P := fun _ => (·.Spares channel registration)) held.spared spares
      name

theorem unsubscribe (held : s.Held channel registration) (kept : s.Kept) {other : Channel}
    {target : Target} (spares : other = channel → target.Spares registration) :
    (s.unsubscribe other target).1.Held channel registration := by
  refine ⟨?_, fun channel' r there =>
    held.spared channel' r (mem_on_of_unsubscribe kept.distinct there)⟩
  rw [unsubscribe_registry]
  cases meant : s.meant? target with
  | none => exact held.here
  | some id =>
    simp only [Option.elim_some, Registry.on_unsubscribe kept.distinct]
    split
    next same =>
      have spares := spares same.symm
      have other : id ≠ some registration.id := by
        rintro rfl
        exact kept.meant?_ne held.here spares meant
      refine List.mem_filter.mpr ⟨held.here, ?_⟩
      cases id with
      | none => exact absurd meant (meant?_ne_all spares)
      | some id =>
        have number : registration.id ≠ id := fun same => other (congrArg some same.symm)
        simp [Registry.isMeant, number]
    next => exact held.here

end Held

/-! ## Deliveries that do not nest -/

def HostQuiet (host : Host ρ σ) (Q : σ → Prop) : Prop :=
  ∀ request state, Q state → Q (host request state).1 ∧ (host request state).2.2 = none

structure Calm (Q : σ → Prop) (s : Emitter ρ σ) : Prop where
  kept : s.Kept
  host : Q s.host
  quiet : ∀ channel, ∀ r ∈ s.registry.on channel, ∀ calls event, (r.listener calls event).Quiet

variable {host : Host ρ σ} {Q : σ → Prop}

structure Rests (Q : σ → Prop) (reaction : Reaction ρ) (s s' : Emitter ρ σ) : Prop where
  calm : s'.Calm Q
  calls : s'.calls = s.calls
  held : ∀ channel r, s.Held channel r → reaction.Spares channel r → s'.Held channel r

theorem askWith?_calm (quietHost : HostQuiet host Q) (deliver : Delivery ρ σ) {s : Emitter ρ σ}
    (calm : s.Calm Q) (request : ρ) :
    s.askWith? host deliver request =
        some ({ s with host := (host request s.host).1 }, (host request s.host).2.1) ∧
      Calm Q { s with host := (host request s.host).1 } := by
  obtain ⟨still, none⟩ := quietHost request s.host calm.host
  refine ⟨?_, calm.kept.withHost _, still, calm.quiet⟩
  simp only [askWith?, none]

theorem react?_calm (quietHost : HostQuiet host Q) (deliver : Delivery ρ σ)
    {reaction : Reaction ρ} (quiet : reaction.Quiet) {s : Emitter ρ σ} (calm : s.Calm Q) :
    ∃ s', react? host deliver reaction s = some s' ∧ Rests Q reaction s s' := by
  induction reaction generalizing s with
  | done | panic => exact ⟨s, rfl, calm, rfl, fun _ _ held _ => held⟩
  | subscribe channel name listener next _ ih =>
    have calm' : (s.subscribe channel name listener).1.Calm Q :=
      ⟨calm.kept.subscribe .., calm.host,
        forall_on_subscribe (P := fun _ => (·.Quiet)) calm.quiet quiet.1 name⟩
    obtain ⟨s', reacted, rests⟩ := ih _ (quiet.2 _) calm'
    refine ⟨s', reacted, rests.calm, rests.calls, fun other r held spares => ?_⟩
    exact rests.held other r (held.subscribe spares.1 name) (spares.2 _)
  | unsubscribe channel target next ih =>
    have calm' : (s.unsubscribe channel target).1.Calm Q :=
      ⟨calm.kept.unsubscribe .., by rw [unsubscribe_host]; exact calm.host, fun other r there =>
        calm.quiet other r (mem_on_of_unsubscribe calm.kept.distinct there)⟩
    obtain ⟨s', reacted, rests⟩ := ih _ (quiet _) calm'
    refine ⟨s', reacted, rests.calm, rests.calls.trans (unsubscribe_calls ..), ?_⟩
    intro other r held spares
    exact rests.held other r (held.unsubscribe calm.kept spares.1) (spares.2 _)
  | emit event next ih => exact quiet.elim
  | count channel next ih =>
    obtain ⟨s', reacted, rests⟩ := ih _ (quiet _) calm
    exact ⟨s', reacted, rests.calm, rests.calls, fun other r held spares =>
      rests.held other r held (spares _)⟩
  | clear next ih =>
    obtain ⟨s', reacted, rests⟩ := ih quiet ⟨calm.kept.clear, calm.host, nofun⟩
    exact ⟨s', reacted, rests.calm, rests.calls, fun _ _ _ spares => spares.elim⟩
  | ask request next ih =>
    obtain ⟨asked, calm'⟩ := askWith?_calm quietHost deliver calm request
    obtain ⟨s', reacted, rests⟩ := ih (host request s.host).2.1 (quiet _) calm'
    refine ⟨s', ?_, rests.calm, rests.calls, fun other r held spares =>
      rests.held other r (held.of_registry_eq rfl) (spares _)⟩
    simpa only [react?, asked, Option.bind_some] using reacted

theorem invoke?_calm {react : Reaction ρ → Emitter ρ σ → Option (Emitter ρ σ)}
    (reacts : ∀ reaction : Reaction ρ, reaction.Quiet → ∀ s : Emitter ρ σ, s.Calm Q →
      ∃ s', react reaction s = some s' ∧ Rests Q reaction s s')
    (event : Event) (depth : Nat) {listeners : List (Registration (Listener ρ))}
    (quiet : ∀ r ∈ listeners, ∀ calls event, (r.listener calls event).Quiet) {s : Emitter ρ σ}
    (calm : s.Calm Q) :
    ∃ s', invoke? react event depth listeners s = some s' ∧ s'.Calm Q ∧
      s'.calls = s.calls ++ listeners.map (Registration.call event depth) ∧
      ∀ channel r, s.Held channel r → (∀ x ∈ listeners, ∀ calls event,
        (x.listener calls event).Spares channel r) → s'.Held channel r := by
  induction listeners generalizing s with
  | nil => exact ⟨s, rfl, calm, (List.append_nil _).symm, fun _ _ held _ => held⟩
  | cons registration rest ih =>
    obtain ⟨own, others⟩ := List.forall_mem_cons.mp quiet
    obtain ⟨middle, reacted, rests⟩ := reacts _ (own (s.callsOf registration.id) event)
      { s with calls := s.calls ++ [registration.call event depth] }
      ⟨calm.kept.withCall _, calm.host, calm.quiet⟩
    obtain ⟨last, invoked, calm, calls, held⟩ := ih others rests.calm
    refine ⟨last, Option.bind_eq_some_iff.mpr ⟨middle, reacted, invoked⟩, calm, ?_, ?_⟩
    · rw [calls, rests.calls]
      simp
    · intro channel r before spares
      obtain ⟨own, others⟩ := List.forall_mem_cons.mp spares
      exact held channel r (rests.held channel r (before.of_registry_eq rfl) (own _ _)) others

theorem emitWithin?_calm (quietHost : HostQuiet host Q) (limit depth : Nat) (event : Event)
    {s : Emitter ρ σ} (calm : s.Calm Q) :
    ∃ s', emitWithin? host (limit + 1) depth s event = some (s', s.count event.channel) ∧
      s'.Calm Q ∧ s'.calls = s.calls ++
        (s.registry.on event.channel).map (Registration.call event depth) ∧
      ∀ channel r, s.Held channel r → s'.Held channel r := by
  have calm' : Calm Q { s with emitted := s.emitted ++ [event] } :=
    ⟨calm.kept.withEvent event, calm.host, calm.quiet⟩
  obtain ⟨last, invoked, still, calls, held⟩ := invoke?_calm
    (fun _ quiet _ calm => react?_calm quietHost (emitWithin? host limit (depth + 1)) quiet calm)
    event depth (calm.quiet event.channel) calm'
  refine ⟨last, Option.map_eq_some_iff.mpr ⟨last, invoked, rfl⟩, still, calls, ?_⟩
  intro channel r before
  exact held channel r (before.of_registry_eq rfl) (before.spared event.channel)

theorem Held.filter_on {s : Emitter ρ σ} {channel : Channel}
    {registration : Registration (Listener ρ)} (held : s.Held channel registration)
    (kept : s.Kept) (other : Channel) :
    (s.registry.on other).filter (·.id = registration.id) =
      if other = channel then [registration] else [] := by
  obtain ⟨roll, same⟩ := kept
  exact same.filter_on held.here other

/-- A registration that is not removed is called for the events on its channel, once each. -/
theorem Held.filter_calls {s : Emitter ρ σ} {channel : Channel}
    {registration : Registration (Listener ρ)} (held : s.Held channel registration)
    (kept : s.Kept) (event : Event) (depth : Nat) :
    ((s.registry.on event.channel).map (Registration.call event depth)).filter
        (·.id = registration.id) =
      if event.channel = channel then [registration.call event depth] else [] := by
  rw [List.filter_map]
  change List.map _ ((s.registry.on event.channel).filter (·.id = registration.id)) = _
  rw [held.filter_on kept]
  split <;> rfl

end Emitter

end ControlPanel
