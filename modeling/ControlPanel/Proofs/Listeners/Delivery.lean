import ControlPanel.Listeners.Emitter

/-!
# What deliveries keep

A property that listeners keep by each single thing that they may do is kept by a whole delivery,
however deep it nests (`Emitter.Upholds.emitWithin?`). The state of the host they reach only by what
they ask for, so whatever every answer of the host keeps is kept too (`Emitter.emit?_invariant`).
-/

namespace ControlPanel

namespace Emitter

variable {ρ σ : Type} {host : Host ρ σ} {P : σ → Prop}

@[simp] theorem unsubscribe_host (s : Emitter ρ σ) (channel : Channel) (target : Target) :
    (s.unsubscribe channel target).1.host = s.host := by
  unfold unsubscribe
  cases target with
  | all | id => rfl
  | named name => dsimp only; split <;> rfl

/-! ## What listeners uphold -/

/-- Listeners keep a property by all that they are allowed to do, and what they do brings about
events of one kind only. -/
structure Upholds (host : Host ρ σ) (allowed : Reaction ρ → Prop) (kind : Event → Prop)
    (P : Emitter ρ σ → Prop) : Prop where
  subscribe : ∀ {s channel name listener next}, P s →
    allowed (.subscribe channel name listener next) →
      P (s.subscribe channel name listener).1 ∧ ∀ id, allowed (next id)
  unsubscribe : ∀ {s channel target next}, P s → allowed (.unsubscribe channel target next) →
    P (s.unsubscribe channel target).1 ∧ ∀ removed, allowed (next removed)
  emit : ∀ {event next}, allowed (.emit event next) → kind event ∧ ∀ called, allowed (next called)
  count : ∀ {channel next}, allowed (.count channel next) → ∀ count, allowed (next count)
  clear : ∀ {s next}, P s → allowed (.clear next) → P s.clear ∧ allowed next
  ask : ∀ {s request next}, P s → allowed (.ask request next) →
    (P { s with host := (host request s.host).1 } ∧
      ∀ event, (host request s.host).2.2 = some event → kind event) ∧
        ∀ answer, allowed (next answer)
  call : ∀ {s} call, P s → P { s with calls := s.calls ++ [call] }
  event : ∀ {s event}, P s → kind event → P { s with emitted := s.emitted ++ [event] }
  listeners : ∀ {s event}, P s → kind event → ∀ r ∈ s.registry.on event.channel,
    ∀ calls, allowed (r.listener calls event)

def Carries (kind : Event → Prop) (P : Emitter ρ σ → Prop) (deliver : Delivery ρ σ) : Prop :=
  ∀ s event s' called, kind event → deliver s event = some (s', called) → P s → P s'

namespace Upholds

variable {allowed : Reaction ρ → Prop} {kind : Event → Prop} {P : Emitter ρ σ → Prop}
  {deliver : Delivery ρ σ} {s s' : Emitter ρ σ}

theorem askWith? (carries : Carries kind P deliver) {request : ρ}
    (answered : P { s with host := (host request s.host).1 } ∧
      ∀ event, (host request s.host).2.2 = some event → kind event) {answer : Nat}
    (asked : s.askWith? host deliver request = some (s', answer)) : P s' := by
  unfold Emitter.askWith? at asked
  split at asked
  rename_i state reply event made
  rw [made] at answered
  cases event with
  | none =>
    cases asked
    exact answered.1
  | some event =>
    obtain ⟨⟨_, called⟩, delivered, same⟩ := Option.map_eq_some_iff.mp asked
    cases same
    exact carries _ _ _ _ (answered.2 event rfl) delivered answered.1

theorem react? (upholds : Upholds host allowed kind P) (carries : Carries kind P deliver)
    {reaction : Reaction ρ} (may : allowed reaction)
    (reacted : Emitter.react? host deliver reaction s = some s') (before : P s) : P s' := by
  induction reaction generalizing s with
  | done | panic =>
    cases reacted
    exact before
  | subscribe channel name listener next _ ih =>
    obtain ⟨still, later⟩ := upholds.subscribe before may
    exact ih _ (later _) reacted still
  | unsubscribe channel target next ih =>
    obtain ⟨still, later⟩ := upholds.unsubscribe before may
    exact ih _ (later _) reacted still
  | emit event next ih =>
    obtain ⟨⟨middle, called⟩, delivered, rest⟩ := Option.bind_eq_some_iff.mp reacted
    obtain ⟨own, later⟩ := upholds.emit may
    exact ih called (later called) rest (carries _ _ _ _ own delivered before)
  | count channel next ih => exact ih _ (upholds.count may _) reacted before
  | clear next ih =>
    obtain ⟨still, later⟩ := upholds.clear before may
    exact ih later reacted still
  | ask request next ih =>
    obtain ⟨⟨middle, answer⟩, asked, rest⟩ := Option.bind_eq_some_iff.mp reacted
    obtain ⟨answered, later⟩ := upholds.ask before may
    exact ih answer (later answer) rest (askWith? carries answered asked)

theorem invoke? (upholds : Upholds host allowed kind P) (carries : Carries kind P deliver)
    {event : Event} {depth : Nat} {listeners : List (Registration (Listener ρ))}
    (may : ∀ r ∈ listeners, ∀ calls, allowed (r.listener calls event))
    (invoked : Emitter.invoke? (Emitter.react? host deliver) event depth listeners s = some s')
    (before : P s) : P s' := by
  induction listeners generalizing s with
  | nil =>
    cases invoked
    exact before
  | cons r rest ih =>
    obtain ⟨own, others⟩ := List.forall_mem_cons.mp may
    obtain ⟨middle, reacted, invoked⟩ := Option.bind_eq_some_iff.mp invoked
    exact ih others invoked (upholds.react? carries (own _) reacted (upholds.call _ before))

theorem emitWithin? (upholds : Upholds host allowed kind P) (limit depth : Nat) :
    Carries kind P (Emitter.emitWithin? host limit depth) := by
  induction limit generalizing depth with
  | zero =>
    intro s event s' called _ delivered
    cases delivered
  | succ limit ih =>
    intro s event s' called own delivered before
    obtain ⟨last, invoked, same⟩ := Option.map_eq_some_iff.mp delivered
    cases same
    exact upholds.invoke? (ih (depth + 1)) (upholds.listeners before own) invoked
      (upholds.event before own)

end Upholds

/-! ## The state of the host -/

def Keeps (P : σ → Prop) (deliver : Delivery ρ σ) : Prop :=
  ∀ s event s' called, deliver s event = some (s', called) → P s.host → P s'.host

theorem upholds_host (kept : ∀ request state, P state → P (host request state).1) :
    Upholds host (fun _ => True) (fun _ => True) fun s => P s.host where
  subscribe := fun before _ => ⟨before, fun _ => trivial⟩
  unsubscribe := fun before _ => ⟨by rwa [unsubscribe_host], fun _ => trivial⟩
  emit := fun _ => ⟨trivial, fun _ => trivial⟩
  count := fun _ _ => trivial
  clear := fun before _ => ⟨before, trivial⟩
  ask := fun before _ => ⟨⟨kept _ _ before, fun _ _ => trivial⟩, fun _ => trivial⟩
  call := fun _ before => before
  event := fun before _ => before
  listeners := fun _ _ _ _ _ => trivial

theorem emit?_invariant (kept : ∀ request state, P state → P (host request state).1)
    (limit : Nat) : Keeps P (emit? host limit) := fun s event s' called =>
  (upholds_host kept).emitWithin? limit 0 s event s' called trivial

theorem ask?_invariant (kept : ∀ request state, P state → P (host request state).1)
    {limit : Nat} {s s' : Emitter ρ σ} {request : ρ} {answer : Nat}
    (asked : s.ask? host limit request = some (s', answer)) (before : P s.host) : P s'.host :=
  Upholds.askWith? ((upholds_host kept).emitWithin? limit 0)
    ⟨kept request s.host before, fun _ _ => trivial⟩ asked

/-! ## Without listeners -/

def Silent (s : Emitter ρ σ) : Prop := s.registry.channels = []

theorem unsubscribe_silent {s : Emitter ρ σ} (silent : s.Silent) (channel : Channel)
    (target : Target) : (s.unsubscribe channel target).1.Silent := by
  have none (id : Option Nat) : (s.registry.unsubscribe channel id).1.channels = [] := by
    simp only [Registry.unsubscribe]
    rw [silent]
    rfl
  unfold unsubscribe
  cases target with
  | all => exact none .none
  | id id => exact none (some id)
  | named name =>
    dsimp only
    split
    · exact none (some _)
    · exact silent

theorem emit?_silent (host : Host ρ σ) {limit : Nat} {s : Emitter ρ σ} (silent : s.Silent)
    (positive : 0 < limit) (event : Event) :
    ∃ s', emit? host limit s event = some (s', 0) ∧ s'.Silent := by
  obtain ⟨limit, rfl⟩ := Nat.exists_eq_add_one_of_ne_zero (Nat.ne_of_gt positive)
  have none : s.registry.on event.channel = [] := by
    rw [Registry.on, silent]
    rfl
  refine ⟨{ s with emitted := s.emitted ++ [event] }, ?_, silent⟩
  simp only [emit?, emitWithin?, none, invoke?, Option.map_some, List.length_nil]

end Emitter

end ControlPanel
