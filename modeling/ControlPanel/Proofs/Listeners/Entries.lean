import ControlPanel.Proofs.Listeners.Presence
import ControlPanel.Proofs.Listeners.Scribes

/-!
# What one scribe writes

Where nothing emits, a scribe that nobody removes and that alone writes on some page of its host
adds to it what it has to write about each event on its channel, whatever the listeners beside it do
(`Emitter.Page.emitWithin?_lines`).
-/

namespace ControlPanel

variable {ρ σ β : Type}

/-- Whatever is asked for is allowed, by the listeners that are registered too. -/
def Reaction.Asks (allowed : ρ → Prop) : Reaction ρ → Prop
  | .done => True
  | .panic => True
  | .subscribe _ _ listener next =>
    (∀ calls event, (listener calls event).Asks allowed) ∧ ∀ id, (next id).Asks allowed
  | .unsubscribe _ _ next => ∀ removed, (next removed).Asks allowed
  | .emit _ next => ∀ called, (next called).Asks allowed
  | .count _ next => ∀ count, (next count).Asks allowed
  | .clear next => next.Asks allowed
  | .ask request next => allowed request ∧ ∀ answer, (next answer).Asks allowed

namespace Emitter

variable {host : Host ρ σ}

theorem carries_nothing (P : Emitter ρ σ → Prop) (deliver : Delivery ρ σ) :
    Carries (fun _ => False) P deliver :=
  fun _ _ _ _ none => none.elim

/-- A list that the host only ever adds to, one entry or none for each request. -/
structure Page (host : Host ρ σ) (β : Type) where
  lines : σ → List β
  line? : ρ → Option β
  grows : ∀ request state,
    lines (host request state).1 = lines state ++ (line? request).toList

namespace Page

variable {page : Page host β} {Q : σ → Prop} {number : Nat} {lines : List β}
  {s s' : Emitter ρ σ} {deliver : Delivery ρ σ} {request? : Event → Option ρ} {event : Event}

/-- Nobody writes on the page but the listener under one number. -/
def Sole (page : Page host β) (number : Nat) (s : Emitter ρ σ) : Prop :=
  ∀ channel, ∀ r ∈ s.registry.on channel, r.id ≠ number → ∀ calls event,
    (r.listener calls event).Asks (page.line? · = none)

structure Shows (page : Page host β) (Q : σ → Prop) (number : Nat) (lines : List β)
    (s : Emitter ρ σ) : Prop where
  kept : s.Kept
  host : Q s.host
  sole : page.Sole number s
  lines : page.lines s.host = lines

theorem Shows.ask (quietHost : HostQuiet host Q) (request : ρ)
    (shown : page.Shows Q number lines s) :
    page.Shows Q number (lines ++ (page.line? request).toList)
        { s with host := (host request s.host).1 } ∧
      ∀ event, (host request s.host).2.2 = some event → False := by
  obtain ⟨still, none⟩ := quietHost request s.host shown.host
  refine ⟨⟨shown.kept.withHost _, still, shown.sole, ?_⟩, fun event told => ?_⟩
  · rw [page.grows, shown.lines]
  · rw [none] at told
    cases told

theorem upholds (quietHost : HostQuiet host Q) (page : Page host β) :
    Upholds host (fun reaction => reaction.Quiet ∧ reaction.Asks (page.line? · = none))
      (fun _ => False) (page.Shows Q number lines) where
  subscribe := by
    intro s channel name listener next shown may
    refine ⟨⟨shown.kept.subscribe .., shown.host, fun other r there apart => ?_, shown.lines⟩,
      fun id => ⟨may.1.2 id, may.2.2 id⟩⟩
    rcases Registry.mem_on_of_subscribe there with old | ⟨_, rfl⟩
    · exact shown.sole other r old apart
    · exact may.2.1
  unsubscribe := by
    intro s channel target next shown may
    have same := unsubscribe_host s channel target
    refine ⟨⟨shown.kept.unsubscribe .., ?_, fun other r there => ?_, ?_⟩,
      fun removed => ⟨may.1 removed, may.2 removed⟩⟩
    · rw [same]
      exact shown.host
    · exact shown.sole other r (mem_on_of_unsubscribe shown.kept.distinct there)
    · rw [same]
      exact shown.lines
  emit := fun may => may.1.elim
  count := fun may count => ⟨may.1 count, may.2 count⟩
  clear := fun shown may => ⟨⟨shown.kept.clear, shown.host, nofun, shown.lines⟩, may⟩
  ask := by
    intro s request next shown may
    have asked := shown.ask quietHost request
    rw [may.2.1, Option.toList_none, List.append_nil] at asked
    exact ⟨asked, fun answer => ⟨may.1 answer, may.2.2 answer⟩⟩
  call := fun call shown => ⟨shown.kept.withCall call, shown.host, shown.sole, shown.lines⟩
  event := fun _ none => none.elim
  listeners := fun _ none => none.elim

theorem Shows.scribe (quietHost : HostQuiet host Q) {calls : Nat}
    (reacted : react? host deliver (Listener.scribe request? calls event) s = some s')
    (shown : page.Shows Q number lines s) :
    page.Shows Q number (lines ++ ((request? event).bind page.line?).toList) s' := by
  unfold Listener.scribe at reacted
  cases asked : request? event with
  | none =>
    rw [asked] at reacted
    cases reacted
    simpa using shown
  | some request =>
    rw [asked] at reacted
    obtain ⟨⟨_, answer⟩, answered, same⟩ := Option.bind_eq_some_iff.mp reacted
    cases same
    exact Upholds.askWith? (carries_nothing _ _) (shown.ask quietHost request) answered

theorem Shows.invoke? (quietHost : HostQuiet host Q) {depth : Nat}
    {listeners : List (Registration (Listener ρ))}
    (own : ∀ r ∈ listeners, r.id = number → r.listener = .scribe request?)
    (quiet : ∀ r ∈ listeners, ∀ calls event, (r.listener calls event).Quiet)
    (others : ∀ r ∈ listeners, r.id ≠ number → ∀ calls event,
      (r.listener calls event).Asks (page.line? · = none))
    (invoked : Emitter.invoke? (react? host deliver) event depth listeners s = some s')
    (shown : page.Shows Q number lines s) :
    page.Shows Q number (lines ++ (listeners.filter (·.id = number)).flatMap fun _ =>
      ((request? event).bind page.line?).toList) s' := by
  induction listeners generalizing s lines with
  | nil =>
    cases invoked
    simpa using shown
  | cons r rest ih =>
    obtain ⟨own, owns⟩ := List.forall_mem_cons.mp own
    obtain ⟨quiet, quiets⟩ := List.forall_mem_cons.mp quiet
    obtain ⟨other, others⟩ := List.forall_mem_cons.mp others
    obtain ⟨middle, reacted, invoked⟩ := Option.bind_eq_some_iff.mp invoked
    have called := (page.upholds quietHost).call ⟨r.id, r.name, event, depth⟩ shown
    by_cases same : r.id = number
    · rw [own same] at reacted
      have written := ih owns quiets others invoked (called.scribe quietHost reacted)
      rw [List.filter_cons_of_pos (by simpa using same), List.flatMap_cons, ← List.append_assoc]
      exact written
    · have left := (page.upholds quietHost).react? (carries_nothing _ _)
        ⟨quiet _ _, other same _ _⟩ reacted called
      rw [List.filter_cons_of_neg (by simpa using same)]
      exact ih owns quiets others invoked left

theorem emitWithin?_lines (quietHost : HostQuiet host Q) {channel : Channel}
    {r : Registration (Listener ρ)} (held : s.Held channel r)
    (scribe : r.listener = .scribe request?) (calm : s.Calm Q) (sole : page.Sole r.id s)
    {limit depth called : Nat}
    (delivered : emitWithin? host limit depth s event = some (s', called)) :
    page.Sole r.id s' ∧ page.lines s'.host = page.lines s.host ++
      if event.channel = channel then ((request? event).bind page.line?).toList else [] := by
  cases limit with
  | zero => cases delivered
  | succ limit =>
    obtain ⟨last, invoked, same⟩ := Option.map_eq_some_iff.mp delivered
    cases same
    have sole' := held.filter_on calm.kept event.channel
    have own : ∀ x ∈ s.registry.on event.channel, x.id = r.id → x.listener = .scribe request? := by
      intro x there same
      have mem : x ∈ (s.registry.on event.channel).filter (·.id = r.id) :=
        List.mem_filter.mpr ⟨there, decide_eq_true same⟩
      rw [sole'] at mem
      split at mem
      · rw [List.mem_singleton.mp mem, scribe]
      · cases mem
    have shown : page.Shows Q r.id (page.lines s.host) { s with emitted := s.emitted ++ [event] } :=
      ⟨calm.kept.withEvent event, calm.host, sole, rfl⟩
    have written := shown.invoke? quietHost own (calm.quiet _) (sole _) invoked
    refine ⟨written.sole, written.lines.trans ?_⟩
    rw [sole']
    split <;> simp

end Page

end Emitter

end ControlPanel
