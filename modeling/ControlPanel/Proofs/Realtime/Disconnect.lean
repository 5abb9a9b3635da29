import ControlPanel.Proofs.Realtime.Attempts
import ControlPanel.Proofs.Realtime.Cancellation
import ControlPanel.Proofs.Realtime.Orderly

/-!
# After a disconnect

Every worker outside the client's slot has finished or is told to stop
(`SharedClient.run?_settled`), and a slot that a disconnect has freed stays free until a new worker
is started. So when the disconnect returns, nothing is left that could open a connection or take a
frame (`SharedClient.run?_disconnect`).
-/

namespace ControlPanel

namespace ConnectionLoop

theorem Retry.releases {backoff : Backoff} {loop : ConnectionLoop} {effects : List Effect}
    (retry : Retry backoff loop effects) (released : .release ∈ effects) :
    loop.stage = .finished := by
  cases retry with
  | again => simp at released
  | never => rfl

theorem Move.releases {cancelled : Bool} {now : Int} {backoff : Backoff} {stage : Stage}
    {loop : ConnectionLoop} {effects : List Effect}
    (move : Move cancelled now backoff stage loop effects) (released : .release ∈ effects) :
    loop.stage = .finished := by
  cases move with
  | stop | close => rfl
  | refuse detail _ effects go retry =>
    apply retry.releases
    simpa using released
  | deliver text go => simp at released
  | write effect frame go writing => rcases writing with rfl | rfl <;> simp at released
  | lose _ noticed cause _ effects connected warned retry =>
    apply retry.releases
    exact (List.mem_append.mp released).resolve_left (release_notMem_parting cause warned)
  | _ => simp at released

end ConnectionLoop

/-! ## Workers outside the slot -/

namespace View

def Settled (v : View) (j : Nat) : Prop :=
  ∀ member, v.roster[j]? = some member →
    v.slot = some j ∨ member.1 = .finished ∨ member.2 = true

variable {v : View} {id j : Nat}

theorem Settled.engage (settled : v.Settled j) (idle : ¬ v.Busy) : v.engage.Settled j := by
  intro member listed
  by_cases new : j = v.roster.length
  · rw [new]
    exact .inl rfl
  · have bound := (List.getElem?_eq_some_iff.mp listed).1
    simp only [View.engage, List.length_append, List.length_singleton] at bound
    rw [View.engage, List.getElem?_append_left (by omega)] at listed
    rcases settled member listed with taken | left
    · -- the worker that was in the slot has finished, or the client would be busy
      by_cases finished : member.1 = .finished
      · exact .inr (.inl finished)
      · exact absurd ⟨j, member, taken, listed, finished⟩ idle
    · exact .inr left

theorem Settled.tell (settled : v.Settled j) (taken : v.slot = some id) :
    (v.tell id).Settled j := by
  intro member listed
  by_cases own : id = j
  · subst own
    rw [View.tell, List.getElem?_modify_eq] at listed
    obtain ⟨before, _, rfl⟩ := Option.map_eq_some_iff.mp listed
    exact .inr (.inr rfl)
  · rw [View.tell, List.getElem?_modify_ne _ _ own] at listed
    rcases settled member listed with other | left
    · exact absurd (Option.some.inj (taken.symm.trans other)) own
    · exact .inr left

theorem Settled.perform (settled : v.Settled j) (other : j ≠ id) (effect : Effect) :
    (v.perform id effect).Settled j := by
  intro member listed
  rw [perform_roster] at listed
  rcases settled member listed with taken | left
  · left
    rw [perform_slot, taken]
    intro own
    exact absurd (Option.some.inj (taken.symm.trans own)) other
  · exact .inr left

theorem Settled.enter (settled : v.Settled j) (other : j ≠ id) (stage : Stage) :
    (v.enter id stage).Settled j := by
  intro member listed
  rw [View.enter, List.getElem?_modify_ne _ _ (Ne.symm other)] at listed
  exact settled member listed

structure Grown (v v' : View) : Prop where
  workers : v.roster.length ≤ v'.roster.length
  free : v'.roster.length = v.roster.length → v.slot = none → v'.slot = none

variable {v' v'' : View}

theorem Grown.refl (v : View) : v.Grown v := ⟨Nat.le_refl _, fun _ free => free⟩

theorem Grown.trans (first : v.Grown v') (second : v'.Grown v'') : v.Grown v'' := by
  refine ⟨Nat.le_trans first.workers second.workers, fun still free => ?_⟩
  have half : v'.roster.length = v.roster.length :=
    Nat.le_antisymm (still ▸ second.workers) first.workers
  exact second.free (still.trans half.symm) (first.free half free)

theorem grown_engage (v : View) : v.Grown v.engage := by
  have more : v.engage.roster.length = v.roster.length + 1 := by simp [View.engage]
  refine ⟨by omega, fun still => ?_⟩
  omega

theorem grown_perform (v : View) (id : Nat) (effect : Effect) : v.Grown (v.perform id effect) := by
  refine ⟨Nat.le_of_eq (by rw [perform_roster]), fun _ free => ?_⟩
  rw [perform_slot (by rw [free]; rintro ⟨⟩), free]

theorem grown_tell (v : View) (id : Nat) : v.Grown (v.tell id) :=
  ⟨by simp [View.tell], fun _ _ => rfl⟩

theorem grown_enter (v : View) (id : Nat) (stage : Stage) : v.Grown (v.enter id stage) :=
  ⟨by simp [View.enter], fun _ free => free⟩

end View

namespace Client

variable {limit id j : Nat} {c c' : Client} {signal : Signal}

theorem performAll_listed {effects : List Effect} {member : Stage × Bool}
    (performed : effects.foldlM (perform? limit id) c = some c')
    (listed : c.host.view.roster[j]? = some member) :
    c'.host.view.roster[j]? = some member := by
  refine performAll_view (P := fun _ v => v.roster[j]? = some member) ?_ ?_ performed listed
  · intro _ v _ listed
    rw [View.engage, List.getElem?_append_left (List.getElem?_eq_some_iff.mp listed).1]
    exact listed
  · intro effect _ v listed
    rwa [View.perform_roster]

theorem wake?_settled_self (settled : c.host.view.Settled id)
    (woken : wake? limit id c signal = some c') : c'.host.view.Settled id := by
  rcases wake?_cases woken with rfl | ⟨stage, cancelled, backoff, d, listed, performed, entered⟩
  · exact settled
  by_cases finished : stage = .finished
  · subst finished
    rwa [wake?_finished listed woken]
  intro member' listed'
  rw [entered, View.enter, List.getElem?_modify_eq, performAll_listed performed listed] at listed'
  cases listed'
  cases cancelled with
  | true => exact .inr (.inr rfl)
  | false =>
    -- it is in the slot, and stays there unless it gives up
    have taken : c.host.view.slot = some id :=
      (settled _ listed).resolve_right (by simp [finished])
    have move := ConnectionLoop.poll_move false c.host.clock ⟨stage, backoff⟩ signal
    by_cases released : .release ∈
        (ConnectionLoop.poll false c.host.clock ⟨stage, backoff⟩ signal).2
    · exact .inr (.inl (move.releases released))
    · left
      have same := performAll_undisturbed performed taken listed finished fun _ => released
      rw [entered, same, View.enter, View.performAll_slot fun _ => released, taken]

theorem wake?_settled (settled : ∀ j, c.host.view.Settled j)
    (woken : wake? limit id c signal = some c') (j : Nat) : c'.host.view.Settled j := by
  by_cases own : j = id
  · rw [own]
    exact wake?_settled_self (settled id) woken
  rcases wake?_cases woken with rfl | ⟨stage, cancelled, backoff, d, listed, performed, entered⟩
  · exact settled j
  · have kept : d.host.view.Settled j :=
      performAll_view (P := fun _ v => v.Settled j) (fun _ v idle settled => settled.engage idle)
        (fun effect _ v settled => settled.perform own effect) performed (settled j)
    rw [entered]
    exact kept.enter own _

theorem wake?_grown (woken : wake? limit id c signal = some c') :
    c.host.view.Grown c'.host.view := by
  rcases wake?_cases woken with rfl | ⟨stage, cancelled, backoff, d, listed, performed, entered⟩
  · exact .refl _
  · have grown : c.host.view.Grown d.host.view :=
      performAll_view (P := fun _ v => c.host.view.Grown v)
        (fun _ v _ grown => grown.trans v.grown_engage)
        (fun effect _ v grown => grown.trans (v.grown_perform id effect)) performed (.refl _)
    rw [entered]
    exact grown.trans (d.host.view.grown_enter id _)

end Client

/-! ## Nothing is sent -/

def Incident.accepted? : Incident → Option Frame
  | accepted frame => some frame
  | _ => none

namespace Link

def accepted (l : Link) : List Frame := l.history.filterMap fun entry => entry.2.accepted?

theorem accepted_record (l : Link) (id : Nat) {incident : Incident}
    (other : incident.accepted? = none) : (l.record id incident).accepted = l.accepted := by
  simp [accepted, record, List.filterMap_append, other]

structure Deaf (frames : List Frame) (l : Link) : Prop where
  deaf : l.outbound = none
  before : l.accepted = frames

variable {frames : List Frame} {l : Link}

theorem Deaf.enqueue? (deaf : l.Deaf frames) (frame : Frame) : l.enqueue? frame = none := by
  unfold Link.enqueue?
  split
  · rename_i outbound
    cases deaf.deaf.symm.trans outbound
  · rfl

theorem Deaf.connect (deaf : l.Deaf frames) : l.connect.Deaf frames := by
  unfold Link.connect
  split
  · exact deaf
  · exact ⟨deaf.deaf, deaf.before⟩

theorem Deaf.answer (deaf : l.Deaf frames) (request : ClientRequest) :
    (Client.answer request l).1.Deaf frames := by
  cases request with
  | connect => exact deaf.connect
  | send topic data =>
    change (Client.answerSend l topic data).1.Deaf frames
    rw [Client.answerSend, deaf.enqueue?]
    exact deaf
  | note | isConnected | bind | tellBinding | cache => exact ⟨deaf.deaf, deaf.before⟩

theorem Deaf.perform (deaf : l.Deaf frames) (id : Nat) {effect : Effect}
    (inactive : effect.isActive = false) : (l.perform id effect).1.Deaf frames := by
  cases effect with
  | openOutbound | dial | write | beat => cases inactive
  | closeOutbound => exact ⟨rfl, (l.accepted_record id rfl).trans deaf.before⟩
  | hangUp => exact ⟨deaf.deaf, (l.accepted_record id rfl).trans deaf.before⟩
  | phase | attempts | release | emit => exact ⟨deaf.deaf, deaf.before⟩

end Link

namespace Client

variable {limit id : Nat} {c c' : Client} {signal : Signal} {frames : List Frame}

theorem performAll_deaf {effects : List Effect} (inactive : effects.any Effect.isActive = false)
    (performed : effects.foldlM (perform? limit id) c = some c') (deaf : c.host.Deaf frames) :
    c'.host.Deaf frames := by
  refine (performAll_invariant (P := fun effects link =>
    effects.any Effect.isActive = false ∧ link.Deaf frames) ?_ ?_ performed ⟨inactive, deaf⟩).2
  · intro effects request link ⟨inactive, deaf⟩
    exact ⟨inactive, deaf.answer request⟩
  · intro effect effects link ⟨inactive, deaf⟩
    rw [List.any_cons, Bool.or_eq_false_iff] at inactive
    exact ⟨inactive.2, deaf.perform id inactive.1⟩

theorem wake?_deaf (settled : c.host.view.Settled id) (free : c.host.view.slot = none)
    (deaf : c.host.Deaf frames) (woken : wake? limit id c signal = some c') :
    c'.host.Deaf frames := by
  unfold wake? at woken
  split at woken
  · cases woken
    exact deaf
  · rename_i worker here
    obtain ⟨d, performed, same⟩ := Option.map_eq_some_iff.mp woken
    cases same
    have listed : c.host.view.roster[id]? = some worker.member := by
      rw [Link.view_roster_getElem?, here, Option.map_some]
    have inactive :
        (worker.loop.poll worker.cancelled c.host.clock signal).2.any Effect.isActive = false := by
      have move := worker.loop.poll_move worker.cancelled c.host.clock signal
      rcases (settled _ listed).resolve_left (by rw [free]; rintro ⟨⟩) with finished | told
      · rw [(move.of_finished finished).1]
        rfl
      · rw [show worker.cancelled = true from told] at move ⊢
        exact move.inactive
    have kept := performAll_deaf inactive performed deaf
    exact ⟨kept.deaf, kept.before⟩

end Client

namespace SharedClient

variable {limit : Nat} {u u' : SharedClient} {frames : List Frame}

theorem Passage.settled (passage : Passage limit u u') (settled : ∀ j, u.view.Settled j) (j : Nat) :
    u'.view.Settled j := by
  cases passage with
  | stay same =>
    rw [same]
    exact settled j
  | engage idle engaged =>
    rw [engaged]
    exact (settled j).engage idle
  | tell id taken told =>
    rw [told]
    exact (settled j).tell taken
  | finish id cancelled waited listed closed =>
    rw [closed]
    exact settled j
  | wake id signal c same woken => exact Client.wake?_settled (same ▸ settled) woken j

theorem Passage.grown (passage : Passage limit u u') : u.view.Grown u'.view := by
  cases passage with
  | stay same =>
    rw [same]
    exact .refl _
  | engage idle engaged =>
    rw [engaged]
    exact u.view.grown_engage
  | tell id taken told =>
    rw [told]
    exact u.view.grown_tell id
  | finish id cancelled waited listed closed =>
    rw [closed]
    exact ⟨Nat.le_refl _, fun _ free => free⟩
  | wake id signal c same woken =>
    rw [← same]
    exact Client.wake?_grown woken

theorem step?_deaf {action : Action} (settled : ∀ j, u.view.Settled j)
    (free : u.view.slot = none) (deaf : u.client.host.Deaf frames)
    (stepped : u.step? limit action = some u') : u'.client.host.Deaf frames := by
  cases action with
  | connect =>
    cases stepped
    exact deaf.connect
  | disconnect =>
    cases stepped
    rwa [Client.beginDisconnect, Link.beginDisconnect_of_free free]
  | finishDisconnect id =>
    cases stepped
    split
    · exact ⟨rfl, deaf.before⟩
    · exact deaf
  | send topic data =>
    obtain ⟨_, sent, same⟩ := Option.map_eq_some_iff.mp stepped
    obtain ⟨_, asked, same'⟩ := Option.map_eq_some_iff.mp sent
    cases same'
    cases same
    exact Emitter.ask?_invariant (fun request _ deaf => deaf.answer request) asked deaf
  | subscribe | clear | wait =>
    cases stepped
    exact ⟨deaf.deaf, deaf.before⟩
  | unsubscribe channel target =>
    cases stepped
    rwa [Emitter.unsubscribe_host]
  | wake id signal =>
    obtain ⟨c, woken, same⟩ := Option.map_eq_some_iff.mp stepped
    cases same
    exact Client.wake?_deaf (settled id) free deaf woken
  | writeNext id =>
    obtain ⟨c, written, same⟩ := Option.map_eq_some_iff.mp stepped
    cases same
    rcases Client.writeNext?_wake written with rfl | ⟨workers, frame, same, woken⟩
    · exact deaf
    · have mine := settled id
      rw [view, ← same] at mine free
      exact Client.wake?_deaf mine free ⟨deaf.deaf, deaf.before⟩ woken

/-! ## Every run -/

theorem run?_settled (actions : List Action) (settled : ∀ j, u.view.Settled j)
    (ran : u.run? limit actions = some u') : ∀ j, u'.view.Settled j :=
  run?_invariant (P := fun u => ∀ j, u.view.Settled j) (fun _ _ passage => passage.settled)
    actions ran settled

theorem run?_grown (actions : List Action) (ran : u.run? limit actions = some u') :
    u.view.Grown u'.view :=
  run?_invariant (P := fun u' => u.view.Grown u'.view)
    (fun _ _ passage grown => grown.trans passage.grown) actions ran (.refl _)

theorem run?_deaf (actions : List Action) (settled : ∀ j, u.view.Settled j)
    (free : u.view.slot = none) (deaf : u.client.host.Deaf frames)
    (ran : u.run? limit actions = some u')
    (still : u'.view.roster.length = u.view.roster.length) : u'.client.host.Deaf frames := by
  induction actions generalizing u with
  | nil =>
    cases ran
    exact deaf
  | cons action actions ih =>
    obtain ⟨next, stepped, rest⟩ := run?_cons_iff.mp ran
    have passage := step?_passage stepped
    have half : next.view.roster.length = u.view.roster.length :=
      Nat.le_antisymm (still ▸ (run?_grown actions rest).workers) passage.grown.workers
    exact ih (passage.settled settled) (passage.grown.free half free)
      (step?_deaf settled free deaf stepped) rest (still.trans half.symm)

/-- A disconnect takes the worker in the slot, waits while the parties go on, and returns when the
worker has finished. -/
def Disconnects (limit : Nat) (u : SharedClient) (id : Nat) (waiting : List Action)
    (u' : SharedClient) : Prop :=
  u.client.host.slot = some id ∧ ∃ middle, u.run? limit (.disconnect :: waiting) = some middle ∧
    middle.mayFinish id = true ∧ middle.step? limit (.finishDisconnect id) = some u'

/-- No connect has started a worker; while the slot is free, every one would. -/
def Unconnected (u u' : SharedClient) : Prop :=
  u'.client.host.workers.length = u.client.host.workers.length

theorem unconnected_iff : Unconnected u u' ↔ u'.view.roster.length = u.view.roster.length := by
  simp only [Unconnected, view, Link.view, List.length_map]

namespace Disconnects

variable {id : Nat} {waiting : List Action}

theorem settled (disconnects : Disconnects limit u id waiting u')
    (settled : ∀ j, u.view.Settled j) : ∀ j, u'.view.Settled j := by
  obtain ⟨_, middle, waited, _, finished⟩ := disconnects
  exact (step?_passage finished).settled (run?_settled _ settled waited)

theorem returned (disconnects : Disconnects limit u id waiting u') :
    (∃ worker, u'.client.host.workers[id]? = some worker ∧ worker.loop.stage = .finished) ∧
      u'.client.host.phase = .closed ∧ u'.client.host.outbound = none := by
  obtain ⟨_, middle, _, may, finished⟩ := disconnects
  cases finished
  rw [if_pos may]
  rw [mayFinish, Bool.and_eq_true, Option.any_eq_true] at may
  obtain ⟨_, worker, here, done⟩ := may
  exact ⟨⟨worker, here, of_decide_eq_true done⟩, rfl, rfl⟩

theorem free (disconnects : Disconnects limit u id waiting u') (unconnected : Unconnected u u') :
    u'.view.slot = none := by
  obtain ⟨taken, middle, waited, _, finished⟩ := disconnects
  obtain ⟨next, told, rest⟩ := run?_cons_iff.mp waited
  have left : next.view = u.view.tell id := by
    cases told
    exact Link.beginDisconnect_view taken
  have grown := (run?_grown waiting rest).trans (step?_passage finished).grown
  rw [left] at grown
  refine grown.free ?_ rfl
  rw [unconnected_iff.mp unconnected, View.tell, List.length_modify]

end Disconnects

theorem send?_deaf {c : Client} (deaf : c.host.Deaf frames) (topic : Topic) (data : Json) :
    c.send? limit topic data =
      (c.emit? Client.answer limit (.error (.notConnected topic))).map fun d => (d.1, false) := by
  have dropped : Client.answer (.send topic data) c.host =
      (c.host, 0, some (.error (.notConnected topic))) := by
    rw [Client.answer, Client.answerSend, deaf.enqueue?]
  rw [Client.send?, Emitter.ask?, Emitter.askWith?, dropped, Option.map_map]
  rfl

theorem run?_disconnect (settings : RealtimeSettings) (clock : Int) :
    (∀ (policy : ReconnectPolicy) (turns later : List Turn), let c := Course.run policy turns
      ∃ effects, (later.foldl Course.turn (c.turn .cancel)).effects = c.effects ++ effects ∧
        .dial ∉ effects ∧
          ∀ event ∈ emitted effects, event.isConnected = false ∧ event.isDelivery = false) ∧
    ∀ limit actions id waiting u u', (start settings clock).run? limit actions = some u →
      Disconnects limit u id waiting u' → Unconnected u u' →
        (∃ worker, u'.client.host.workers[id]? = some worker ∧ worker.loop.stage = .finished) ∧
          u'.client.host.phase = .closed ∧ u'.client.host.outbound = none ∧
          ∀ later u'', u'.run? limit later = some u'' → Unconnected u' u'' →
            u''.client.host.accepted = u'.client.host.accepted ∧
              ∀ topic data, u''.client.send? limit topic data =
                (u''.client.emit? Client.answer limit (.error (.notConnected topic))).map
                  fun d => (d.1, false) := by
  constructor
  · intro policy turns later c
    obtain ⟨effects, all, inactive⟩ := Course.foldl_turn_inactive (c := c.turn .cancel) rfl later
    have quiet : ∀ effect ∈ effects, effect.isActive = false := by
      simpa using inactive
    refine ⟨effects, all, fun dialled => (by cases quiet _ dialled), fun event told => ?_⟩
    obtain ⟨effect, listed, same⟩ := List.mem_filterMap.mp told
    have inactive := quiet effect listed
    cases effect with
    | emit event' =>
      cases same
      exact Bool.or_eq_false_iff.mp inactive
    | _ => cases same
  · intro limit actions id waiting u u' ran disconnects unconnected
    have settled : ∀ j, u.view.Settled j :=
      run?_settled actions (fun _ _ listed => by cases listed) ran
    obtain ⟨finished, closed, deaf⟩ := disconnects.returned
    refine ⟨finished, closed, deaf, fun later u'' ran' unconnected' => ?_⟩
    have still := run?_deaf later (disconnects.settled settled) (disconnects.free unconnected)
      ⟨deaf, rfl⟩ ran' (unconnected_iff.mp unconnected')
    exact ⟨still.before, send?_deaf still⟩

/-- The handshake has just succeeded when the worker is woken to stop. -/
theorem run?_disconnect_handshake :
    let settings : RealtimeSettings := ⟨"ws://127.0.0.1:9", 60000, .default⟩
    ∃ u u', (start settings 0).run? 1 [.connect, .wake 0 .look] = some u ∧
      Disconnects 1 u 0 [.wake 0 .opened] u' ∧ Unconnected u u' ∧
      u'.client.host.phase = .closed ∧ ∀ topic data, ∃ c,
        u'.client.send? 1 topic data = some (c, false) := by
  intro settings
  obtain ⟨u, ran⟩ : ∃ u, (start settings 0).run? 1 [.connect, .wake 0 .look] = some u := ⟨_, rfl⟩
  obtain ⟨u', disconnects, unconnected, silent⟩ : ∃ u', Disconnects 1 u 0 [.wake 0 .opened] u' ∧
      Unconnected u u' ∧ u'.client.Silent := by
    cases ran
    exact ⟨_, ⟨rfl, _, rfl, rfl, rfl⟩, rfl, rfl⟩
  obtain ⟨_, closed, _, later⟩ :=
    (run?_disconnect settings 0).2 1 _ 0 _ u u' ran disconnects unconnected
  refine ⟨u, u', ran, disconnects, unconnected, closed, fun topic data => ?_⟩
  have dropped := (later [] u' rfl rfl).2 topic data
  obtain ⟨c, told, _⟩ := Emitter.emit?_silent Client.answer silent Nat.one_pos
    (.error (.notConnected topic))
  rw [told] at dropped
  exact ⟨c, dropped⟩

end SharedClient

end ControlPanel
