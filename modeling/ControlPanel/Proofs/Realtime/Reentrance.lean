import Mathlib.Algebra.Order.BigOperators.Group.Finset
import ControlPanel.Proofs.Listeners.Presence
import ControlPanel.Proofs.Realtime.Reflection

/-!
# Calling back

Listeners call the client while it delivers events to them, and a frame that it cannot send is told
to listeners before the call returns. On an open connection no call of a listener is told, so a
delivery makes the calls of the listeners registered when it begins and no others. Otherwise
deliveries of errors nest, and they end if every listener on the channel of errors stops sending
after some number of its calls. A listener there that is not removed and always sends again makes
all of them go on for ever (`Client.reentrance`).
-/

namespace ControlPanel

namespace Client

variable {c c' : Client}

/-! ## On an open connection -/

abbrev OpenCalm (c : Client) : Prop := c.Calm fun link => link.view.Stands true

theorem hostQuiet_stands : Emitter.HostQuiet answer fun link => link.view.Stands true := by
  intro request link stands
  refine ⟨answer_stands stands request, ?_⟩
  cases request with
  | send topic data =>
    obtain ⟨link', taken⟩ := Link.enqueue?_of_stands stands ⟨topic, data, link.clock⟩
    simp only [answer, answerSend, taken]
  | _ => rfl

theorem emit?_open (calm : c.OpenCalm) (event : Event) :
    ∃ c' : Client, c.emit? answer 1 event = some (c', c.count event.channel) ∧ c'.OpenCalm ∧
      c'.calls = c.calls ++ (c.registry.on event.channel).map (Registration.call event 0) := by
  obtain ⟨c', delivered, still, calls, _⟩ :=
    Emitter.emitWithin?_calm hostQuiet_stands 0 0 event calm
  exact ⟨c', delivered, still, calls⟩

theorem send?_open (calm : c.OpenCalm) (limit : Nat) (topic : Topic) (data : Json) :
    ∃ c' : Client, c.send? limit topic data = some (c', true) ∧ c'.OpenCalm ∧
      c'.calls = c.calls := by
  obtain ⟨link, taken⟩ := Link.enqueue?_of_stands calm.host ⟨topic, data, c.host.clock⟩
  have stands := answer_stands calm.host (.send topic data)
  simp only [answer, answerSend, taken] at stands
  refine ⟨{ c with host := link }, ?_, ⟨calm.kept.withHost link, stands, calm.quiet⟩, rfl⟩
  simp only [send?, Emitter.ask?, Emitter.askWith?, answer, answerSend, taken, Option.map_some,
    decide_true]

/-! ## Listeners that stop sending -/

def errorRank (channel : Channel) : Nat := if channel = .error then 0 else 1

/-- Listeners emit errors only, and one on the channel of errors does so no more when it has been
called as often as its bound says. -/
structure Patient (bound : Nat → Nat) (c : Client) : Prop where
  distinct : c.registry.Distinct
  descends : ∀ channel, ∀ r ∈ c.registry.on channel, ∀ calls event,
    (r.listener calls event).Descends answer errorRank (errorRank channel) ∨
      calls < bound r.id ∧ (r.listener calls event).Descends answer errorRank 1

def remaining (bound : Nat → Nat) (many : Nat) (c : Client) : Nat :=
  ∑ id ∈ Finset.range many, (bound id - c.callsOf id)

structure Budgeted (bound : Nat → Nat) (many budget : Nat) (c : Client) : Prop where
  patient : c.Patient bound
  within : c.remaining bound many ≤ budget

variable {bound : Nat → Nat} {many budget : Nat}

theorem Patient.of_registry_eq (patient : c.Patient bound) (same : c'.registry = c.registry) :
    c'.Patient bound :=
  ⟨same ▸ patient.distinct, same ▸ patient.descends⟩

theorem remaining_of_calls_eq (same : c'.calls = c.calls) :
    c'.remaining bound many = c.remaining bound many := by
  simp only [remaining, Emitter.callsOf, same]

theorem Budgeted.of_eq (budgeted : c.Budgeted bound many budget)
    (registry : c'.registry = c.registry) (calls : c'.calls = c.calls) :
    c'.Budgeted bound many budget :=
  ⟨budgeted.patient.of_registry_eq registry, remaining_of_calls_eq calls ▸ budgeted.within⟩

theorem robust_budgeted (bound : Nat → Nat) (many budget : Nat) :
    Emitter.Robust answer errorRank (Budgeted bound many budget) where
  withHost := fun _ budgeted => budgeted.of_eq rfl rfl
  subscribe := by
    intro c channel listener budgeted descends name
    have within : remaining bound many (c.subscribe channel name listener).1 ≤ budget := by
      rw [remaining_of_calls_eq rfl]
      exact budgeted.within
    refine ⟨⟨budgeted.patient.distinct.subscribe channel name listener, ?_⟩, within⟩
    intro other r there
    rcases Registry.mem_on_of_subscribe there with there | ⟨rfl, rfl⟩
    · exact budgeted.patient.descends other r there
    · exact fun calls event => .inl (descends calls event)
  unsubscribe := by
    intro c budgeted channel target
    have within : remaining bound many (c.unsubscribe channel target).1 ≤ budget := by
      rw [remaining_of_calls_eq (Emitter.unsubscribe_calls c channel target)]
      exact budgeted.within
    refine ⟨⟨Emitter.distinct_unsubscribe budgeted.patient.distinct channel target, ?_⟩, within⟩
    exact fun other r there => budgeted.patient.descends other r
      (Emitter.mem_on_of_unsubscribe budgeted.patient.distinct there)
  clear := by
    intro c budgeted
    have within : remaining bound many c.clear ≤ budget := by
      rw [remaining_of_calls_eq rfl]
      exact budgeted.within
    exact ⟨⟨List.nodup_nil, fun _ _ there => nomatch there⟩, within⟩

theorem callsOf_withCall (c : Client) (call : Invocation) (id : Nat) :
    Emitter.callsOf { c with calls := c.calls ++ [call] } id =
      c.callsOf id + if call.id = id then 1 else 0 := by
  simp only [Emitter.callsOf, List.countP_append, List.countP_singleton, beq_iff_eq]

theorem remaining_withCall_le (c : Client) (call : Invocation) :
    remaining bound many { c with calls := c.calls ++ [call] } ≤ c.remaining bound many := by
  apply Finset.sum_le_sum
  intro id _
  rw [callsOf_withCall]
  omega

theorem remaining_withCall_lt {call : Invocation} (listed : call.id < many)
    (left : c.callsOf call.id < bound call.id) :
    remaining bound many { c with calls := c.calls ++ [call] } < c.remaining bound many := by
  apply Finset.sum_lt_sum
  · intro id _
    rw [callsOf_withCall]
    omega
  · refine ⟨call.id, Finset.mem_range.mpr listed, ?_⟩
    rw [callsOf_withCall, if_pos rfl]
    omega

theorem invoke?_budgeted {react : Reaction ClientRequest → Client → Option Client}
    {level depth : Nat} {event : Event} (beyond : ∀ id, many ≤ id → bound id = 0)
    (reacts : ∀ reaction : Reaction ClientRequest, reaction.Descends answer errorRank level →
      ∀ c : Client, c.Budgeted bound many budget →
        ∃ c' : Client, react reaction c = some c' ∧ c'.Budgeted bound many budget)
    (sends : ∀ less, budget = less + 1 → ∀ reaction : Reaction ClientRequest,
      reaction.Descends answer errorRank 1 → ∀ c : Client, c.Budgeted bound many less →
        ∃ c' : Client, react reaction c = some c' ∧ c'.Budgeted bound many less)
    {listeners : List (Registration (Listener ClientRequest))}
    (descends : ∀ r ∈ listeners, ∀ calls event,
      (r.listener calls event).Descends answer errorRank level ∨
        calls < bound r.id ∧ (r.listener calls event).Descends answer errorRank 1)
    (budgeted : c.Budgeted bound many budget) :
    ∃ c' : Client, Emitter.invoke? react event depth listeners c = some c' ∧
      c'.Budgeted bound many budget := by
  induction listeners generalizing c with
  | nil => exact ⟨c, rfl, budgeted⟩
  | cons r rest ih =>
    obtain ⟨own, others⟩ := List.forall_mem_cons.mp descends
    let called : Client := { c with calls := c.calls ++ [r.call event depth] }
    have patient : called.Patient bound := budgeted.patient.of_registry_eq rfl
    obtain ⟨middle, reacted, still⟩ : ∃ middle : Client,
        react (r.listener (c.callsOf r.id) event) called = some middle ∧
          middle.Budgeted bound many budget := by
      rcases own (c.callsOf r.id) event with silent | ⟨left, sending⟩
      · exact reacts _ silent called
          ⟨patient, Nat.le_trans (remaining_withCall_le c _) budgeted.within⟩
      · have listed : r.id < many := by
          by_contra past
          rw [beyond r.id (Nat.le_of_not_lt past)] at left
          exact Nat.not_lt_zero _ left
        have less : called.remaining bound many < c.remaining bound many :=
          remaining_withCall_lt listed left
        have within := budgeted.within
        obtain ⟨middle, reacted, still⟩ := sends (budget - 1) (by omega) _ sending called
          ⟨patient, by omega⟩
        exact ⟨middle, reacted, still.patient, Nat.le_trans still.within (Nat.sub_le ..)⟩
    obtain ⟨last, invoked, still⟩ := ih others still
    exact ⟨last, Option.bind_eq_some_iff.mpr ⟨middle, reacted, invoked⟩, still⟩

theorem emitWithin?_budgeted {limit depth : Nat} {event : Event}
    (beyond : ∀ id, many ≤ id → bound id = 0)
    (quiet : Emitter.Returns (Budgeted bound many budget) errorRank (errorRank event.channel)
      (Emitter.emitWithin? answer limit (depth + 1)))
    (sends : ∀ less, budget = less + 1 → Emitter.Returns (Budgeted bound many less) errorRank 1
      (Emitter.emitWithin? answer limit (depth + 1)))
    (budgeted : c.Budgeted bound many budget) :
    ∃ c' called, Emitter.emitWithin? answer (limit + 1) depth c event = some (c', called) ∧
      Budgeted bound many budget c' := by
  have begun : Budgeted bound many budget { c with emitted := c.emitted ++ [event] } :=
    budgeted.of_eq rfl rfl
  obtain ⟨last, invoked, still⟩ := invoke?_budgeted beyond
    (fun _ descends _ budgeted =>
      Emitter.react?_returns (robust_budgeted bound many budget) quiet descends budgeted)
    (fun less same _ descends _ budgeted =>
      Emitter.react?_returns (robust_budgeted bound many less) (sends less same) descends budgeted)
    (budgeted.patient.descends event.channel) begun
  exact ⟨last, _, Option.map_eq_some_iff.mpr ⟨last, invoked, rfl⟩, still⟩

/-- Errors nest no deeper than there are calls left in which listeners may send. -/
theorem errors_return (beyond : ∀ id, many ≤ id → bound id = 0) {limit : Nat} (depth : Nat)
    {budget : Nat} (fits : budget < limit) :
    Emitter.Returns (Budgeted bound many budget) errorRank 1
      (Emitter.emitWithin? answer limit depth) := by
  induction limit generalizing depth budget with
  | zero => exact absurd fits (Nat.not_lt_zero budget)
  | succ limit ih =>
    intro c event budgeted isError
    refine emitWithin?_budgeted beyond ?_ ?_ budgeted
    · intro _ inner _ lower
      omega
    · intro less same
      exact ih (depth + 1) (by omega)

theorem emit?_patient (patient : c.Patient bound) (beyond : ∀ id, many ≤ id → bound id = 0)
    (event : Event) :
    ∃ result, c.emit? answer (c.remaining bound many + 2) event = some result := by
  have rank : errorRank event.channel ≤ 1 := by
    unfold errorRank
    split <;> omega
  have budgeted : c.Budgeted bound many (c.remaining bound many) := ⟨patient, Nat.le_refl _⟩
  obtain ⟨c', called, delivered, -⟩ : ∃ c' called,
      Emitter.emitWithin? answer (c.remaining bound many + 1 + 1) 0 c event = some (c', called) ∧
        Budgeted bound many (c.remaining bound many) c' :=
    emitWithin?_budgeted beyond
      (fun c inner budgeted lower => errors_return beyond 1 (Nat.lt_succ_self _) c inner budgeted
        (Nat.lt_of_lt_of_le lower rank))
      (fun less same => errors_return beyond 1 (by omega)) budgeted
  exact ⟨_, delivered⟩

theorem send?_patient (patient : c.Patient bound) (beyond : ∀ id, many ≤ id → bound id = 0)
    (topic : Topic) (data : Json) :
    ∃ result, c.send? (c.remaining bound many + 2) topic data = some result := by
  cases queued : c.host.enqueue? ⟨topic, data, c.host.clock⟩ with
  | some link =>
    exact ⟨_, by simp only [send?, Emitter.ask?, Emitter.askWith?, answer, answerSend, queued]; rfl⟩
  | none =>
    obtain ⟨result, delivered⟩ := emit?_patient patient beyond (.error (.notConnected topic))
    simp only [send?, Emitter.ask?, Emitter.askWith?, answer, answerSend, queued]
    rw [delivered]
    exact ⟨_, rfl⟩

end Client

/-! ## A listener that always sends -/

def Reaction.CallsClient : Reaction ClientRequest → Prop
  | .done => True
  | .subscribe _ _ listener next =>
    (∀ calls event, (listener calls event).CallsClient) ∧ ∀ id, (next id).CallsClient
  | .unsubscribe _ _ next => ∀ removed, (next removed).CallsClient
  | .ask .connect next => ∀ answer, (next answer).CallsClient
  | .ask (.send _ _) next => ∀ answer, (next answer).CallsClient
  | _ => False

def Reaction.Sends : Reaction ClientRequest → Prop
  | .done => False
  | .panic => False
  | .subscribe _ _ _ next => ∀ id, (next id).Sends
  | .unsubscribe _ _ next => ∀ removed, (next removed).Sends
  | .emit _ next => ∀ called, (next called).Sends
  | .count _ next => ∀ count, (next count).Sends
  | .clear next => next.Sends
  | .ask (.send _ _) _ => True
  | .ask _ next => ∀ answer, (next answer).Sends

namespace Client

variable {r : Registration (Listener ClientRequest)}
  {deliver : Emitter.Delivery ClientRequest Link}

structure Stuck (r : Registration (Listener ClientRequest)) (c : Client) : Prop where
  kept : c.Kept
  held : c.Held .error r
  shut : c.host.view.Stands false

theorem Stuck.withHost (stuck : Stuck r c) (request : ClientRequest) :
    Stuck r { c with host := (answer request c.host).1 } :=
  ⟨stuck.kept.withHost _, stuck.held.of_registry_eq rfl, answer_stands stuck.shut request⟩

theorem Stuck.subscribe (stuck : Stuck r c) {channel : Channel}
    {listener : Listener ClientRequest}
    (spares : ∀ calls event, (listener calls event).Spares .error r) (name : String) :
    Stuck r (c.subscribe channel name listener).1 :=
  ⟨stuck.kept.subscribe channel name listener, stuck.held.subscribe spares name, stuck.shut⟩

theorem Stuck.unsubscribe (stuck : Stuck r c) {channel : Channel} {target : Target}
    (spares : channel = .error → target.Spares r) :
    Stuck r (c.unsubscribe channel target).1 := by
  refine ⟨stuck.kept.unsubscribe channel target, stuck.held.unsubscribe stuck.kept spares, ?_⟩
  rw [Emitter.unsubscribe_host]
  exact stuck.shut

theorem Stuck.withCall (stuck : Stuck r c) (call : Invocation) :
    Stuck r { c with calls := c.calls ++ [call] } :=
  ⟨stuck.kept.withCall call, stuck.held.of_registry_eq rfl, stuck.shut⟩

theorem Stuck.withEvent (stuck : Stuck r c) (event : Event) :
    Stuck r { c with emitted := c.emitted ++ [event] } :=
  ⟨stuck.kept.withEvent event, stuck.held.of_registry_eq rfl, stuck.shut⟩

theorem upholds_stuck (r : Registration (Listener ClientRequest)) :
    Emitter.Upholds answer (·.Spares .error r) (fun _ => True) (Stuck r) where
  subscribe := fun stuck spares => ⟨stuck.subscribe spares.1 _, spares.2⟩
  unsubscribe := fun stuck spares => ⟨stuck.unsubscribe spares.1, spares.2⟩
  emit := fun spares => ⟨trivial, spares⟩
  count := fun spares => spares
  clear := fun _ spares => spares.elim
  ask := fun stuck spares => ⟨⟨stuck.withHost _, fun _ _ => trivial⟩, spares⟩
  call := fun call stuck => stuck.withCall call
  event := fun stuck _ => stuck.withEvent _
  listeners := fun stuck _ x there calls => stuck.held.spared _ x there calls _

theorem answerSend_shut {link : Link} (shut : link.view.Stands false) (topic : Topic)
    (data : Json) :
    answerSend link topic data = (link, 0, some (.error (.notConnected topic))) := by
  have refused : link.enqueue? ⟨topic, data, link.clock⟩ = none := by
    have shut : link.phase ≠ .opened := shut
    unfold Link.enqueue?
    split
    · rename_i phase _
      exact absurd phase shut
    · rfl
  simp only [answerSend, refused]

theorem react?_none (stays : Emitter.Carries (fun _ => True) (Stuck r) deliver)
    (fails : ∀ c error, Stuck r c → deliver c (.error error) = none)
    {reaction : Reaction ClientRequest} (sends : reaction.Sends)
    (spares : reaction.Spares .error r) (stuck : Stuck r c) :
    Emitter.react? answer deliver reaction c = none := by
  induction reaction generalizing c with
  | done | panic => exact sends.elim
  | subscribe channel name listener next _ ih =>
    exact ih _ (sends _) (spares.2 _) (stuck.subscribe spares.1 name)
  | unsubscribe channel target next ih =>
    exact ih _ (sends _) (spares.2 _) (stuck.unsubscribe spares.1)
  | emit event next ih =>
    refine Option.bind_eq_none_iff.mpr fun ⟨middle, called⟩ delivered => ?_
    exact ih called (sends called) (spares called) (stays _ _ _ _ trivial delivered stuck)
  | count channel next ih => exact ih _ (sends _) (spares _) stuck
  | clear next => exact spares.elim
  | ask request next ih =>
    refine Option.bind_eq_none_iff.mpr fun ⟨middle, reply⟩ asked => ?_
    have goesOn (sends : (next reply).Sends) := ih reply sends (spares reply)
      (Emitter.Upholds.askWith? stays ⟨stuck.withHost request, fun _ _ => trivial⟩ asked)
    cases request with
    | send topic data =>
      simp only [Emitter.askWith?, answer, answerSend_shut stuck.shut] at asked
      rw [fails _ _ stuck] at asked
      cases asked
    | _ => exact goesOn (sends reply)

theorem invoke?_none (stays : Emitter.Carries (fun _ => True) (Stuck r) deliver)
    (fails : ∀ c error, Stuck r c → deliver c (.error error) = none) {event : Event} {depth : Nat}
    {listeners : List (Registration (Listener ClientRequest))} (listed : r ∈ listeners)
    (sends : ∀ calls, (r.listener calls event).Sends)
    (spares : ∀ x ∈ listeners, ∀ calls event, (x.listener calls event).Spares .error r)
    (stuck : Stuck r c) :
    Emitter.invoke? (Emitter.react? answer deliver) event depth listeners c = none := by
  induction listeners generalizing c with
  | nil => cases listed
  | cons x rest ih =>
    obtain ⟨own, others⟩ := List.forall_mem_cons.mp spares
    refine Option.bind_eq_none_iff.mpr fun middle reacted => ?_
    rcases List.mem_cons.mp listed with rfl | listed
    · rw [react?_none stays fails (sends _) (own _ _) (stuck.withCall _)] at reacted
      cases reacted
    · exact ih listed others ((upholds_stuck r).react? stays (own _ _) reacted (stuck.withCall _))

theorem emitWithin?_none (sends : ∀ calls error, (r.listener calls (.error error)).Sends)
    (limit depth : Nat) (error : LinkError) (stuck : Stuck r c) :
    Emitter.emitWithin? answer limit depth c (.error error) = none := by
  induction limit generalizing c depth error with
  | zero => rfl
  | succ limit ih =>
    refine Option.map_eq_none_iff.mpr ?_
    exact invoke?_none ((upholds_stuck r).emitWithin? limit (depth + 1))
      (fun c error stuck => ih (depth + 1) error stuck) stuck.held.here
      (fun calls => sends calls error) (stuck.held.spared .error) (stuck.withEvent _)

theorem send?_none (sends : ∀ calls error, (r.listener calls (.error error)).Sends)
    (limit : Nat) (topic : Topic) (data : Json) (stuck : Stuck r c) :
    c.send? limit topic data = none := by
  have refused := answerSend_shut stuck.shut topic data
  simp only [send?, Emitter.ask?, Emitter.askWith?, answer, refused, Emitter.emit?]
  rw [emitWithin?_none sends limit 0 (.notConnected topic) stuck]
  rfl

/-- When the calls that listeners make of the client return. -/
theorem reentrance {c : Client} :
    (c.OpenCalm →
      (∀ event, ∃ c' : Client, c.emit? answer 1 event = some (c', c.count event.channel) ∧
        c'.calls = c.calls ++ (c.registry.on event.channel).map (Registration.call event 0)) ∧
      ∀ topic data, ∃ c' : Client, c.send? 1 topic data = some (c', true) ∧ c'.calls = c.calls) ∧
    (∀ bound many, c.Patient bound → (∀ id, many ≤ id → bound id = 0) →
      (∀ event, ∃ result, c.emit? answer (c.remaining bound many + 2) event = some result) ∧
      ∀ topic data, ∃ result, c.send? (c.remaining bound many + 2) topic data = some result) ∧
    ∀ r, c.Kept → c.Held .error r →
      (∀ calls error, (r.listener calls (.error error)).Sends) → c.host.phase ≠ .opened →
      ∀ limit, (∀ error, c.emit? answer limit (.error error) = none) ∧
        ∀ topic data, c.send? limit topic data = none := by
  refine ⟨fun calm => ⟨fun event => ?_, fun topic data => ?_⟩, ?_, ?_⟩
  · obtain ⟨c', delivered, -, calls⟩ := emit?_open calm event
    exact ⟨c', delivered, calls⟩
  · obtain ⟨c', sent, -, calls⟩ := send?_open calm 1 topic data
    exact ⟨c', sent, calls⟩
  · intro bound many patient beyond
    exact ⟨emit?_patient patient beyond, send?_patient patient beyond⟩
  · intro r kept held sends shut limit
    have stuck : Stuck r c := ⟨kept, held, shut⟩
    exact ⟨fun error => emitWithin?_none sends limit 0 error stuck,
      fun topic data => send?_none sends limit topic data stuck⟩

def insist : Listener ClientRequest := fun _ _ => .ask (.send (.other "again") .null) fun _ => .done

def offline (listener : Listener ClientRequest) : Client :=
  ((start ⟨"ws://127.0.0.1:9", 60000, .default⟩ 0).subscribe .error "retry" listener).1

theorem kept_offline (listener : Listener ClientRequest) : (offline listener).Kept :=
  (Emitter.Kept.start _).subscribe .error "retry" listener

theorem mem_on_offline {listener : Listener ClientRequest} {channel : Channel}
    {r : Registration (Listener ClientRequest)}
    (there : r ∈ (offline listener).registry.on channel) :
    channel = .error ∧ r = ⟨0, "retry", listener⟩ :=
  (Registry.mem_on_of_subscribe there).resolve_left nofun

theorem stuck_offline : Stuck ⟨0, "retry", insist⟩ (offline insist) := by
  refine ⟨kept_offline insist, ⟨List.mem_singleton_self _, ?_⟩, nofun⟩
  intro channel r there calls event
  obtain ⟨-, rfl⟩ := mem_on_offline there
  exact fun _ => trivial

def online : Client :=
  let c := offline insist
  { c with host := { c.host with
    phase := .opened
    slot := some 0
    outbound := some 0
    workers := [⟨⟨.session, .start c.host.settings.reconnect⟩, false, []⟩] } }

theorem calm_online : online.OpenCalm := by
  refine ⟨(kept_offline insist).withHost _, ?_, ?_⟩
  · exact ⟨⟨0, (.session, false), rfl, rfl, by decide⟩, rfl, by decide⟩
  · intro channel r there calls event
    obtain ⟨-, rfl⟩ := mem_on_offline there
    exact fun _ => trivial

theorem patient_offline :
    (offline (insist.limited 3)).Patient fun id => if id = 0 then 3 else 0 := by
  refine ⟨Registry.distinct_empty.subscribe .error "retry" _, ?_⟩
  intro channel r there calls event
  obtain ⟨-, rfl⟩ := mem_on_offline there
  by_cases early : calls < 3
  · have same : insist.limited 3 calls event = insist calls event := if_pos early
    refine .inr ⟨early, ?_⟩
    change Reaction.Descends answer errorRank 1 (insist.limited 3 calls event)
    rw [same]
    refine ⟨fun link event told => ?_, fun _ => trivial⟩
    change (answerSend link (.other "again") .null).2.2 = some event at told
    unfold answerSend at told
    split at told
    · cases told
    · cases told
      decide
  · have same : insist.limited 3 calls event = .done := if_neg early
    change Reaction.Descends answer errorRank (errorRank channel) (insist.limited 3 calls event) ∨ _
    rw [same]
    exact .inl trivial

theorem reentrance_retry :
    (∃ c' : Client, online.send? 1 (.other "ping") .null = some (c', true)) ∧
      (∃ result, (offline (insist.limited 3)).send? 5 (.other "ping") .null = some result) ∧
      ∀ limit, (offline insist).send? limit (.other "ping") .null = none := by
  refine ⟨?_, ?_, ?_⟩
  · obtain ⟨c', sent, -⟩ := (reentrance.1 calm_online).2 (.other "ping") .null
    exact ⟨c', sent⟩
  · exact (reentrance.2.1 (fun id => if id = 0 then 3 else 0) 1 patient_offline
      (fun id past => if_neg (Nat.ne_of_gt past))).2 (.other "ping") .null
  · intro limit
    exact (reentrance.2.2 ⟨0, "retry", insist⟩ stuck_offline.kept stuck_offline.held
      (fun _ _ => trivial) nofun limit).2 (.other "ping") .null

/-- A listener tries to send again when a frame was not sent. -/
theorem send?_not_returns : ¬ ∀ c : Client, (∀ channel, ∀ r ∈ c.registry.on channel,
    ∀ calls event, (r.listener calls event).CallsClient) →
    ∀ topic data, ∃ limit result, c.send? limit topic data = some result := by
  intro returns
  have calls (channel : Channel) (r : Registration (Listener ClientRequest))
      (there : r ∈ (offline insist).registry.on channel) (calls : Nat) (event : Event) :
      (r.listener calls event).CallsClient := by
    obtain ⟨-, rfl⟩ := mem_on_offline there
    exact fun _ => trivial
  obtain ⟨limit, result, sent⟩ := returns (offline insist) calls (.other "ping") .null
  have sends (calls : Nat) (error : LinkError) : (insist calls (.error error)).Sends := trivial
  have none := send?_none sends limit (.other "ping") .null stuck_offline
  cases none.symm.trans sent

end Client

end ControlPanel
