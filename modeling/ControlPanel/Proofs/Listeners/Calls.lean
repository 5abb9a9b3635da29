import ControlPanel.Listeners.Emitter
import ControlPanel.Proofs.Listeners.Registry

/-!
# The calls of a delivery

Calls are made from within as many reactions as their depth says. The calls that a delivery makes
at its own depth are those of the listeners that were registered when it began, once each and in
order, whatever they do (`Emitter.emitWithin?_calls`); deliveries that they begin call deeper.

The limit on nesting decides only whether there is a result (`Emitter.emitWithin?_mono`). There is
one if no listener answers events of its own channel, directly or through others, that is if the
channels can be ranked so that listeners emit on channels of a lower rank only
(`Emitter.emitWithin?_returns`).
-/

namespace ControlPanel

def Registration.call {ρ : Type} (event : Event) (depth : Nat)
    (registration : Registration (Listener ρ)) : Invocation :=
  ⟨registration.id, registration.name, event, depth⟩

namespace Emitter

variable {ρ σ : Type} {host : Host ρ σ} {deliver : Delivery ρ σ}

def meant? (s : Emitter ρ σ) : Target → Option (Option Nat)
  | .all => some .none
  | .id id => some (some id)
  | .named name => (s.names.find? name).map some

theorem unsubscribe_registry (s : Emitter ρ σ) (channel : Channel) (target : Target) :
    (s.unsubscribe channel target).1.registry =
      (s.meant? target).elim s.registry fun id => (s.registry.unsubscribe channel id).1 := by
  cases target with
  | all | id => rfl
  | named name => cases found : s.names.find? name <;> simp [unsubscribe, meant?, found]

theorem distinct_unsubscribe {s : Emitter ρ σ} (distinct : s.registry.Distinct)
    (channel : Channel) (target : Target) :
    (s.unsubscribe channel target).1.registry.Distinct := by
  rw [unsubscribe_registry]
  cases s.meant? target with
  | none => exact distinct
  | some id => exact distinct.unsubscribe channel id

theorem mem_on_of_unsubscribe {s : Emitter ρ σ} (distinct : s.registry.Distinct)
    {channel other : Channel} {target : Target} {registration : Registration (Listener ρ)}
    (there : registration ∈ (s.unsubscribe channel target).1.registry.on other) :
    registration ∈ s.registry.on other := by
  rw [unsubscribe_registry] at there
  cases meant : s.meant? target with
  | none => simpa [meant] using there
  | some id =>
    rw [meant] at there
    exact Registry.mem_on_of_unsubscribe distinct there

def Deepens (depth : Nat) (s s' : Emitter ρ σ) : Prop :=
  ∃ new, s'.calls = s.calls ++ new ∧ ∀ call ∈ new, depth ≤ call.depth

namespace Deepens

variable {depth : Nat} {s s' s'' : Emitter ρ σ}

theorem refl (s : Emitter ρ σ) : Deepens depth s s :=
  ⟨[], (List.append_nil _).symm, fun _ none => nomatch none⟩

theorem after (next : Deepens depth s' s'') (same : s'.calls = s.calls) :
    Deepens depth s s'' := by
  obtain ⟨new, calls, deep⟩ := next
  exact ⟨new, same ▸ calls, deep⟩

theorem trans (first : Deepens depth s s') (next : Deepens depth s' s'') :
    Deepens depth s s'' := by
  obtain ⟨new, calls, deep⟩ := first
  obtain ⟨new', calls', deep'⟩ := next
  refine ⟨new ++ new', by rw [calls', calls, List.append_assoc], fun call added => ?_⟩
  exact (List.mem_append.mp added).elim (deep call) (deep' call)

end Deepens

@[simp] theorem unsubscribe_calls (s : Emitter ρ σ) (channel : Channel) (target : Target) :
    (s.unsubscribe channel target).1.calls = s.calls := by
  unfold unsubscribe
  cases target with
  | all | id => rfl
  | named name => dsimp only; split <;> rfl

theorem askWith?_deepens {depth : Nat}
    (delivers : ∀ s event s' called, deliver s event = some (s', called) → Deepens depth s s')
    {s s' : Emitter ρ σ} {request : ρ} {answer : Nat}
    (asked : s.askWith? host deliver request = some (s', answer)) : Deepens depth s s' := by
  unfold askWith? at asked
  split at asked
  rename_i state reply event _
  cases event with
  | none =>
    cases asked
    exact .refl _
  | some event =>
    obtain ⟨⟨_, called⟩, delivered, same⟩ := Option.map_eq_some_iff.mp asked
    cases same
    exact (delivers _ _ _ _ delivered).after rfl

theorem react?_deepens {depth : Nat}
    (delivers : ∀ s event s' called, deliver s event = some (s', called) → Deepens depth s s')
    (reaction : Reaction ρ) {s s' : Emitter ρ σ}
    (reacted : react? host deliver reaction s = some s') : Deepens depth s s' := by
  induction reaction generalizing s with
  | done | panic =>
    cases reacted
    exact .refl _
  | subscribe channel name listener next _ ih => exact (ih _ reacted).after rfl
  | unsubscribe channel target next ih =>
    exact (ih _ reacted).after (unsubscribe_calls s channel target)
  | emit event next ih =>
    obtain ⟨⟨middle, called⟩, delivered, rest⟩ := Option.bind_eq_some_iff.mp reacted
    exact .trans (delivers _ _ _ _ delivered) (ih called rest)
  | count channel next ih => exact ih _ reacted
  | clear next ih => exact (ih reacted).after rfl
  | ask request next ih =>
    obtain ⟨⟨middle, answer⟩, asked, rest⟩ := Option.bind_eq_some_iff.mp reacted
    exact .trans (askWith?_deepens delivers asked) (ih answer rest)

theorem invoke?_calls {react : Reaction ρ → Emitter ρ σ → Option (Emitter ρ σ)} {depth : Nat}
    (reacts : ∀ reaction s s', react reaction s = some s' → Deepens (depth + 1) s s')
    {event : Event} (listeners : List (Registration (Listener ρ))) {s s' : Emitter ρ σ}
    (invoked : invoke? react event depth listeners s = some s') :
    ∃ new, s'.calls = s.calls ++ new ∧ (∀ call ∈ new, depth ≤ call.depth) ∧
      new.filter (·.depth = depth) = listeners.map (Registration.call event depth) := by
  induction listeners generalizing s with
  | nil =>
    cases invoked
    exact ⟨[], (List.append_nil _).symm, fun _ none => (nomatch none), rfl⟩
  | cons registration rest ih =>
    obtain ⟨middle, reacted, invoked⟩ := Option.bind_eq_some_iff.mp invoked
    obtain ⟨inner, within, deeper⟩ := reacts _ _ _ reacted
    obtain ⟨later, after, deep, own⟩ := ih invoked
    let call := registration.call event depth
    have none : inner.filter (·.depth = depth) = [] := by
      refine List.filter_eq_nil_iff.mpr fun other added => ?_
      have := deeper other added
      simp only [decide_eq_true_eq]
      omega
    refine ⟨call :: inner ++ later, ?_, ?_, ?_⟩
    · rw [after, within]
      simp [call, Registration.call]
    · intro other added
      rcases List.mem_append.mp added with added | added
      · rcases List.mem_cons.mp added with rfl | added
        · exact Nat.le_refl depth
        · exact Nat.le_of_succ_le (deeper other added)
      · exact deep other added
    · have mine : (call :: inner).filter (·.depth = depth) = [call] := by
        rw [List.filter_cons_of_pos (by simp [call, Registration.call]), none]
      rw [List.filter_append, mine, own]
      rfl

theorem emitWithin?_deepens (limit depth : Nat) (s : Emitter ρ σ) (event : Event)
    (s' : Emitter ρ σ) (called : Nat)
    (delivered : emitWithin? host limit depth s event = some (s', called)) :
    Deepens depth s s' := by
  induction limit generalizing depth s event s' called with
  | zero => cases delivered
  | succ limit ih =>
    obtain ⟨last, invoked, same⟩ := Option.map_eq_some_iff.mp delivered
    cases same
    obtain ⟨new, calls, deep, _⟩ := invoke?_calls
      (fun reaction _ _ reacted => react?_deepens (ih (depth + 1)) reaction reacted) _ invoked
    exact ⟨new, calls, deep⟩

theorem emitWithin?_calls {limit depth : Nat} {s s' : Emitter ρ σ} {event : Event} {called : Nat}
    (delivered : emitWithin? host limit depth s event = some (s', called)) :
    called = s.count event.channel ∧ ∃ new, s'.calls = s.calls ++ new ∧
      (∀ call ∈ new, depth ≤ call.depth) ∧
      new.filter (·.depth = depth) =
        (s.registry.on event.channel).map (Registration.call event depth) := by
  cases limit with
  | zero => cases delivered
  | succ limit =>
    obtain ⟨last, invoked, same⟩ := Option.map_eq_some_iff.mp delivered
    cases same
    have reacts (reaction : Reaction ρ) (s s' : Emitter ρ σ)
        (reacted : react? host (emitWithin? host limit (depth + 1)) reaction s = some s') :
        Deepens (depth + 1) s s' :=
      react?_deepens (emitWithin?_deepens limit (depth + 1)) reaction reacted
    obtain ⟨new, calls, deep, own⟩ := invoke?_calls reacts _ invoked
    exact ⟨rfl, new, calls, deep, own⟩

/-! ## The limit -/

def Extends (deliver deliver' : Delivery ρ σ) : Prop :=
  ∀ s event result, deliver s event = some result → deliver' s event = some result

variable {deliver' : Delivery ρ σ}

theorem Extends.askWith? (more : Extends deliver deliver') {s : Emitter ρ σ} {request : ρ}
    {result : Emitter ρ σ × Nat} (asked : s.askWith? host deliver request = some result) :
    s.askWith? host deliver' request = some result := by
  unfold Emitter.askWith? at asked ⊢
  split at asked
  rename_i state reply event _
  cases event with
  | none => exact asked
  | some event =>
    obtain ⟨_, delivered, same⟩ := Option.map_eq_some_iff.mp asked
    exact Option.map_eq_some_iff.mpr ⟨_, more _ _ _ delivered, same⟩

theorem Extends.react? (more : Extends deliver deliver') (reaction : Reaction ρ)
    {s s' : Emitter ρ σ} (reacted : Emitter.react? host deliver reaction s = some s') :
    Emitter.react? host deliver' reaction s = some s' := by
  induction reaction generalizing s with
  | done | panic => exact reacted
  | subscribe channel name listener next _ ih => exact ih _ reacted
  | unsubscribe channel target next ih => exact ih _ reacted
  | emit event next ih =>
    obtain ⟨⟨middle, called⟩, delivered, rest⟩ := Option.bind_eq_some_iff.mp reacted
    exact Option.bind_eq_some_iff.mpr ⟨_, more _ _ _ delivered, ih called rest⟩
  | count channel next ih => exact ih _ reacted
  | clear next ih => exact ih reacted
  | ask request next ih =>
    obtain ⟨⟨middle, answer⟩, asked, rest⟩ := Option.bind_eq_some_iff.mp reacted
    exact Option.bind_eq_some_iff.mpr ⟨_, more.askWith? asked, ih answer rest⟩

theorem invoke?_mono {react react' : Reaction ρ → Emitter ρ σ → Option (Emitter ρ σ)}
    (more : ∀ reaction s s', react reaction s = some s' → react' reaction s = some s')
    {event : Event} {depth : Nat} (listeners : List (Registration (Listener ρ)))
    {s s' : Emitter ρ σ} (invoked : invoke? react event depth listeners s = some s') :
    invoke? react' event depth listeners s = some s' := by
  induction listeners generalizing s with
  | nil => exact invoked
  | cons registration rest ih =>
    obtain ⟨middle, reacted, invoked⟩ := Option.bind_eq_some_iff.mp invoked
    exact Option.bind_eq_some_iff.mpr ⟨middle, more _ _ _ reacted, ih invoked⟩

theorem emitWithin?_mono (host : Host ρ σ) {limit limit' : Nat} (most : limit ≤ limit')
    (depth : Nat) : Extends (emitWithin? host limit depth) (emitWithin? host limit' depth) := by
  induction limit generalizing limit' depth with
  | zero =>
    intro s event result delivered
    cases delivered
  | succ limit ih =>
    cases limit' with
    | zero => cases most
    | succ limit' =>
      intro s event result delivered
      obtain ⟨last, invoked, same⟩ := Option.map_eq_some_iff.mp delivered
      refine Option.map_eq_some_iff.mpr ⟨last, invoke?_mono ?_ _ invoked, same⟩
      exact fun reaction _ _ reacted =>
        (ih (Nat.le_of_succ_le_succ most) (depth + 1)).react? reaction reacted

end Emitter

/-! ## Ranks -/

/-- Events are emitted on channels below a level only, and listeners registered are so for the
rank of their channel. -/
def Reaction.Descends {ρ σ : Type} (host : Host ρ σ) (rank : Channel → Nat) (level : Nat) :
    Reaction ρ → Prop
  | .done => True
  | .panic => True
  | .subscribe channel _ listener next =>
    (∀ calls event, (listener calls event).Descends host rank (rank channel)) ∧
      ∀ id, (next id).Descends host rank level
  | .unsubscribe _ _ next => ∀ removed, (next removed).Descends host rank level
  | .emit event next =>
    rank event.channel < level ∧ ∀ called, (next called).Descends host rank level
  | .count _ next => ∀ count, (next count).Descends host rank level
  | .clear next => next.Descends host rank level
  | .ask request next =>
    (∀ state event, (host request state).2.2 = some event → rank event.channel < level) ∧
      ∀ answer, (next answer).Descends host rank level

namespace Emitter

variable {ρ σ : Type} {host : Host ρ σ} {deliver : Delivery ρ σ} {rank : Channel → Nat}

theorem forall_on_subscribe {P : Channel → Reaction ρ → Prop} {s : Emitter ρ σ}
    (others : ∀ channel, ∀ r ∈ s.registry.on channel, ∀ calls event,
      P channel (r.listener calls event))
    {channel : Channel} {listener : Listener ρ}
    (own : ∀ calls event, P channel (listener calls event)) (name : String) :
    ∀ other, ∀ r ∈ (s.subscribe channel name listener).1.registry.on other, ∀ calls event,
      P other (r.listener calls event) := by
  intro other r there
  rcases Registry.mem_on_of_subscribe there with there | ⟨rfl, rfl⟩
  · exact others other r there
  · exact own

structure Ranked (host : Host ρ σ) (rank : Channel → Nat) (s : Emitter ρ σ) : Prop where
  distinct : s.registry.Distinct
  descends : ∀ channel, ∀ registration ∈ s.registry.on channel, ∀ calls event,
    (registration.listener calls event).Descends host rank (rank channel)

namespace Ranked

variable {s : Emitter ρ σ}

theorem start (host : Host ρ σ) (rank : Channel → Nat) (state : σ) :
    Ranked host rank (.start state) :=
  ⟨Registry.distinct_empty, fun _ _ none => nomatch none⟩

theorem subscribe (ranked : s.Ranked host rank) {channel : Channel} {listener : Listener ρ}
    (descends : ∀ calls event, (listener calls event).Descends host rank (rank channel))
    (name : String) : (s.subscribe channel name listener).1.Ranked host rank :=
  ⟨ranked.distinct.subscribe channel name listener, forall_on_subscribe
    (P := fun channel => (·.Descends host rank (rank channel))) ranked.descends descends name⟩

theorem unsubscribe (ranked : s.Ranked host rank) (channel : Channel) (target : Target) :
    (s.unsubscribe channel target).1.Ranked host rank :=
  ⟨distinct_unsubscribe ranked.distinct channel target, fun other registration there =>
    ranked.descends other registration (mem_on_of_unsubscribe ranked.distinct there)⟩

theorem clear (s : Emitter ρ σ) : s.clear.Ranked host rank :=
  ⟨List.nodup_nil, fun _ _ none => nomatch none⟩

theorem of_registry_eq (ranked : s.Ranked host rank) {s' : Emitter ρ σ}
    (same : s'.registry = s.registry) : s'.Ranked host rank :=
  ⟨same ▸ ranked.distinct, same ▸ ranked.descends⟩

end Ranked

/-- What listeners keep by all that they do themselves, if those that they register descend. -/
structure Robust (host : Host ρ σ) (rank : Channel → Nat) (P : Emitter ρ σ → Prop) : Prop where
  withHost : ∀ {s} (state : σ), P s → P { s with host := state }
  subscribe : ∀ {s} {channel : Channel} {listener : Listener ρ}, P s →
    (∀ calls event, (listener calls event).Descends host rank (rank channel)) →
    ∀ name, P (s.subscribe channel name listener).1
  unsubscribe : ∀ {s}, P s → ∀ channel target, P (s.unsubscribe channel target).1
  clear : ∀ {s}, P s → P s.clear

theorem Ranked.robust (host : Host ρ σ) (rank : Channel → Nat) :
    Robust host rank (Ranked host rank) where
  withHost := fun _ ranked => ranked.of_registry_eq rfl
  subscribe := fun ranked descends => ranked.subscribe descends
  unsubscribe := fun ranked => ranked.unsubscribe
  clear := fun _ => .clear _

def Returns (P : Emitter ρ σ → Prop) (rank : Channel → Nat) (level : Nat)
    (deliver : Delivery ρ σ) : Prop :=
  ∀ s event, P s → rank event.channel < level →
    ∃ s' called, deliver s event = some (s', called) ∧ P s'

variable {P : Emitter ρ σ → Prop}

theorem askWith?_returns (robust : Robust host rank P) {level : Nat}
    (delivers : Returns P rank level deliver) {s : Emitter ρ σ} (before : P s) {request : ρ}
    (below : ∀ state event, (host request state).2.2 = some event → rank event.channel < level) :
    ∃ s' answer, s.askWith? host deliver request = some (s', answer) ∧ P s' := by
  have below := below s.host
  unfold askWith?
  split
  rename_i state answer event made
  cases event with
  | none => exact ⟨_, answer, rfl, robust.withHost state before⟩
  | some event =>
    obtain ⟨s', called, delivered, still⟩ :=
      delivers _ event (robust.withHost state before) (below event (by rw [made]))
    exact ⟨s', answer, by simp only [delivered, Option.map_some], still⟩

theorem react?_returns (robust : Robust host rank P) {level : Nat}
    (delivers : Returns P rank level deliver) {reaction : Reaction ρ}
    (descends : reaction.Descends host rank level) {s : Emitter ρ σ} (before : P s) :
    ∃ s', react? host deliver reaction s = some s' ∧ P s' := by
  induction reaction generalizing s with
  | done | panic => exact ⟨s, rfl, before⟩
  | subscribe channel name listener next _ ih =>
    exact ih _ (descends.2 _) (robust.subscribe before descends.1 name)
  | unsubscribe channel target next ih =>
    exact ih _ (descends _) (robust.unsubscribe before channel target)
  | emit event next ih =>
    obtain ⟨middle, called, delivered, still⟩ := delivers s event before descends.1
    obtain ⟨last, reacted, still⟩ := ih called (descends.2 called) still
    exact ⟨last, Option.bind_eq_some_iff.mpr ⟨_, delivered, reacted⟩, still⟩
  | count channel next ih => exact ih _ (descends _) before
  | clear next ih => exact ih descends (robust.clear before)
  | ask request next ih =>
    obtain ⟨middle, answer, asked, still⟩ := askWith?_returns robust delivers before descends.1
    obtain ⟨last, reacted, still⟩ := ih answer (descends.2 answer) still
    exact ⟨last, Option.bind_eq_some_iff.mpr ⟨_, asked, reacted⟩, still⟩

theorem invoke?_returns {react : Reaction ρ → Emitter ρ σ → Option (Emitter ρ σ)} {level : Nat}
    (reacts : ∀ reaction : Reaction ρ, reaction.Descends host rank level → ∀ s : Emitter ρ σ,
      s.Ranked host rank → ∃ s', react reaction s = some s' ∧ s'.Ranked host rank)
    {event : Event} {depth : Nat} {listeners : List (Registration (Listener ρ))}
    (descends : ∀ registration ∈ listeners, ∀ calls event,
      (registration.listener calls event).Descends host rank level)
    {s : Emitter ρ σ} (ranked : s.Ranked host rank) :
    ∃ s', invoke? react event depth listeners s = some s' ∧ s'.Ranked host rank := by
  induction listeners generalizing s with
  | nil => exact ⟨s, rfl, ranked⟩
  | cons registration rest ih =>
    obtain ⟨own, others⟩ := List.forall_mem_cons.mp descends
    obtain ⟨middle, reacted, ranked⟩ := reacts _ (own (s.callsOf registration.id) event)
      { s with calls := s.calls ++ [registration.call event depth] }
      (ranked.of_registry_eq rfl)
    obtain ⟨last, invoked, ranked⟩ := ih others ranked
    exact ⟨last, Option.bind_eq_some_iff.mpr ⟨middle, reacted, invoked⟩, ranked⟩

theorem emitWithin?_returns (host : Host ρ σ) (rank : Channel → Nat) (limit depth : Nat) :
    Returns (Ranked host rank) rank limit (emitWithin? host limit depth) := by
  induction limit generalizing depth with
  | zero => exact fun _ _ _ below => nomatch below
  | succ limit ih =>
    intro s event ranked below
    have within : Returns (Ranked host rank) rank (rank event.channel)
        (emitWithin? host limit (depth + 1)) :=
      fun s inner ranked lower => ih (depth + 1) s inner ranked (by omega)
    have ranked' : Ranked host rank { s with emitted := s.emitted ++ [event] } :=
      ranked.of_registry_eq rfl
    obtain ⟨last, invoked, still⟩ := invoke?_returns
      (fun _ descends _ ranked => react?_returns (Ranked.robust host rank) within descends ranked)
      (ranked.descends event.channel) ranked'
    exact ⟨last, _, Option.map_eq_some_iff.mpr ⟨last, invoked, rfl⟩, still⟩

end Emitter

end ControlPanel
