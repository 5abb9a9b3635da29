import ControlPanel.Proofs.Listeners.Entries
import ControlPanel.Proofs.Realtime.Arrivals
import ControlPanel.Proofs.Realtime.Bookkeeping
import ControlPanel.Proofs.Realtime.Exclusion

/-!
# From frames to listeners

What comes in on an open connection is delivered in the order in which it comes
(`SharedClient.run?_routed`): the data of a frame on the topic that its `type` names, then the whole
frame to those who listen to messages, and what is no frame to those who listen to errors. A
listener that nobody removes hears each of them once, and one that takes notes of the payloads it
can read has noted each of those.
-/

namespace ControlPanel

/-! ## An open connection -/

structure View.Open (v : View) (id : Nat) : Prop where
  serving : v.Serving id
  slot : v.slot = some id
  listed : v.roster[id]? = some (.session, false)

theorem View.Open.busy {v : View} {id : Nat} (isOpen : v.Open id) : v.Busy :=
  ⟨id, _, isOpen.slot, isOpen.listed, by decide⟩

theorem View.Open.enter {v : View} {id : Nat} (isOpen : v.Open id) (stage : Stage) :
    ((v.enter id stage).enter id .session).Open id := by
  refine ⟨isOpen.serving, isOpen.slot, ?_⟩
  simp [View.enter, isOpen.listed]

/-! ## Notes -/

namespace Link

def notesUnder (l : Link) (tag : String) : List Note := (l.notes.filter (·.1 = tag)).map (·.2)

theorem notesUnder_congr {l l' : Link} (same : l'.notes = l.notes) (tag : String) :
    l'.notesUnder tag = l.notesUnder tag := by
  rw [notesUnder, same, notesUnder]

end Link

def Client.notebook (tag : String) : Emitter.Page Client.answer Note where
  lines link := link.notesUnder tag
  line?
    | .note other note => if other = tag then some note else none
    | _ => none
  grows request link := by
    cases request with
    | note other note =>
      simp only [answer, Link.notesUnder, List.filter_append, List.map_append]
      by_cases same : other = tag <;> simp [same]
    | connect =>
      rw [answer, Link.notesUnder_congr (Link.connect_records link).notes]
      exact (List.append_nil _).symm
    | send topic data =>
      rw [answer, Link.notesUnder_congr (answerSend_records link topic data).notes]
      exact (List.append_nil _).symm
    | isConnected | bind | tellBinding | cache => exact (List.append_nil _).symm

namespace Listener

variable {ρ α : Type}

theorem typed_data (read : Json → Option α) (listener : α → Reaction ρ) (calls : Nat)
    (topic : Topic) (payload : Json) (timestamp : Int) :
    typed read listener calls (.data topic payload timestamp) =
      (read payload).elim .done listener := by
  change ((read payload).map listener).getD .done = _
  cases read payload <;> rfl

theorem typed_ask (read : Json → Option α) (request : α → ρ) :
    (typed read fun a => .ask (request a) fun _ => .done) =
      .scribe fun event => (event.value? read).map request := by
  funext _ event
  dsimp only [typed, scribe]
  cases event.value? read <;> rfl

end Listener

/-! ## Hearing -/

def heardBy (number : Nat) (calls : List Invocation) : List Event :=
  (calls.filter (·.id = number)).map (·.event)

theorem heardBy_append (number : Nat) (calls later : List Invocation) :
    heardBy number (calls ++ later) = heardBy number calls ++ heardBy number later := by
  simp [heardBy]

namespace Client

variable {id : Nat} {c c' c'' : Client} {events later : List Event}
  {groups rest : List (List Invocation)}

abbrev OpenAt (id : Nat) (link : Link) : Prop := link.view.Open id

theorem hostQuiet_answer (id : Nat) : Emitter.HostQuiet answer (OpenAt id) := by
  intro request link isOpen
  cases request with
  | connect =>
    refine ⟨?_, rfl⟩
    change link.connect.view.Open id
    rw [Link.connect_view_of_busy isOpen.busy]
    exact isOpen
  | send topic data =>
    change (answerSend link topic data).1.view.Open id ∧ (answerSend link topic data).2.2 = none
    have phase : link.phase = .opened := isOpen.serving.1
    have outbound : link.outbound = some id := isOpen.serving.2
    unfold answerSend
    split
    next l queued =>
      refine ⟨?_, rfl⟩
      rw [Link.enqueue?_view queued]
      exact isOpen
    next refused => simp [Link.enqueue?, phase, outbound] at refused
  | note | isConnected | bind | tellBinding | cache => exact ⟨isOpen, rfl⟩

/-- Events are delivered one after another, each to a group of listeners, and a listener that is
not removed is called for those on its channel. -/
structure Delivers (id : Nat) (c : Client) (events : List Event)
    (groups : List (List Invocation)) (c' : Client) : Prop where
  calm : c'.Calm (OpenAt id)
  calls : c'.calls = c.calls ++ groups.flatten
  each : List.Forall₂ (fun event group => ∀ call ∈ group, call.event = event) events groups
  held : ∀ channel r, c.Held channel r → c'.Held channel r
  heard : ∀ channel r, c.Held channel r →
    heardBy r.id groups.flatten = events.filter (·.channel = channel)
  noted : ∀ channel r, c.Held channel r → ∀ request?, r.listener = .scribe request? →
    ∀ tag, (notebook tag).Sole r.id c → (notebook tag).Sole r.id c' ∧
      c'.host.notesUnder tag = c.host.notesUnder tag ++
        (events.filter (·.channel = channel)).filterMap fun event =>
          (request? event).bind (notebook tag).line?

namespace Delivers

theorem refl (calm : c.Calm (OpenAt id)) : Delivers id c [] [] c :=
  ⟨calm, (List.append_nil _).symm, .nil, fun _ _ held => held, fun _ _ _ => rfl,
    fun _ _ _ _ _ _ sole => ⟨sole, (List.append_nil _).symm⟩⟩

theorem trans (first : Delivers id c events groups c') (last : Delivers id c' later rest c'') :
    Delivers id c (events ++ later) (groups ++ rest) c'' where
  calm := last.calm
  calls := by rw [last.calls, first.calls, List.flatten_append, List.append_assoc]
  each := List.rel_append first.each last.each
  held channel r held := last.held channel r (first.held channel r held)
  heard channel r held := by
    rw [List.flatten_append, heardBy_append, first.heard channel r held,
      last.heard channel r (first.held channel r held), List.filter_append]
  noted channel r held request? scribe tag sole := by
    obtain ⟨sole, before⟩ := first.noted channel r held request? scribe tag sole
    obtain ⟨sole, after⟩ :=
      last.noted channel r (first.held channel r held) request? scribe tag sole
    exact ⟨sole, by rw [after, before, List.filter_append, List.filterMap_append,
      List.append_assoc]⟩

/-- Neither the time nor the loops make a difference to listeners. -/
theorem withLink (delivers : Delivers id c events groups c') {before after : Link}
    (isOpen : after.view.Open id) (same : c.host.notes = before.notes)
    (same' : after.notes = c'.host.notes) :
    Delivers id { c with host := before } events groups { c' with host := after } where
  calm := ⟨delivers.calm.kept.withHost after, isOpen, delivers.calm.quiet⟩
  calls := delivers.calls
  each := delivers.each
  held channel r held := (delivers.held channel r (held.of_registry_eq rfl)).of_registry_eq rfl
  heard channel r held := delivers.heard channel r (held.of_registry_eq rfl)
  noted channel r held request? scribe tag sole := by
    obtain ⟨still, noted⟩ := delivers.noted channel r (held.of_registry_eq rfl) request? scribe tag
      sole
    refine ⟨still, ?_⟩
    rw [Link.notesUnder_congr same] at noted
    exact (Link.notesUnder_congr same' tag).trans noted

end Delivers

theorem perform?_delivers (limit worker : Nat) (calm : c.Calm (OpenAt id)) (event : Event) :
    ∃ c' group, perform? (limit + 1) worker c (.emit event) = some c' ∧
      Delivers id c [event] [group] c' := by
  obtain ⟨c', delivered, still, calls, held⟩ :=
    Emitter.emitWithin?_calm (hostQuiet_answer id) limit 0 event calm
  refine ⟨c', (c.registry.on event.channel).map (Registration.call event 0),
    congrArg (Option.map Prod.fst) delivered, still, ?_, ?_, held, fun channel r before => ?_,
    fun channel r before request? scribe tag sole => ?_⟩
  · rw [calls, List.flatten_singleton]
  · simp [Registration.call]
  · rw [List.flatten_singleton, heardBy, before.filter_calls calm.kept]
    by_cases own : event.channel = channel <;> simp [own, Registration.call]
  · obtain ⟨still, lines⟩ := Emitter.Page.emitWithin?_lines (hostQuiet_answer id) before scribe calm
      sole delivered
    refine ⟨still, lines.trans (congrArg (_ ++ ·) ?_)⟩
    by_cases own : event.channel = channel
    · rw [if_pos own, List.filter_cons_of_pos (by simpa using own)]
      cases written : (request? event).bind (notebook tag).line? <;> simp [written]
    · rw [if_neg own, List.filter_cons_of_neg (by simpa using own)]
      rfl

theorem performAll_delivers (limit worker : Nat) (calm : c.Calm (OpenAt id))
    (events : List Event) :
    ∃ c' groups, (events.map Effect.emit).foldlM (perform? (limit + 1) worker) c = some c' ∧
      Delivers id c events groups c' := by
  induction events generalizing c with
  | nil => exact ⟨c, [], rfl, .refl calm⟩
  | cons event events ih =>
    obtain ⟨middle, group, performed, first⟩ := perform?_delivers limit worker calm event
    obtain ⟨c', groups, later, last⟩ := ih first.calm
    refine ⟨c', [group] ++ groups, ?_, first.trans last⟩
    rw [List.map_cons, List.foldlM_cons, performed]
    exact later

theorem wake?_delivers (limit : Nat) (calm : c.Calm (OpenAt id)) {a : Arrival}
    (isFrame : a.message.isFrame = true) (timed : c.host.clock = a.time) :
    ∃ c' groups, wake? (limit + 1) id c (.inbound a.message) = some c' ∧
      Delivers id c a.events groups c' := by
  have listed := calm.host.listed
  rw [Link.view_roster_getElem?] at listed
  obtain ⟨⟨⟨stage, backoff⟩, cancelled, queue⟩, here, same⟩ := Option.map_eq_some_iff.mp listed
  cases same
  obtain ⟨c', groups, performed, delivers⟩ := performAll_delivers limit id calm a.events
  refine ⟨{ c' with host := c'.host.setLoop id ⟨.session, backoff⟩ }, groups, ?_, ?_⟩
  · simp only [wake?, here, timed, Arrival.poll_of_isFrame isFrame, performed, Option.map_some]
  · refine delivers.withLink ?_ rfl rfl
    -- the loop is where it was
    rw [Link.setLoop_view, View.enter_self delivers.calm.host.listed]
    exact delivers.calm.host

theorem perform?_kept {limit worker : Nat} {effect : Effect} (kept : c.Kept)
    (performed : perform? limit worker c effect = some c') : c'.Kept := by
  rw [perform?_eq] at performed
  cases told : (c.host.perform worker effect).2 with
  | none =>
    rw [told] at performed
    cases performed
    exact kept.withHost _
  | some event =>
    rw [told] at performed
    obtain ⟨⟨_, _⟩, delivered, rfl⟩ := Option.map_eq_some_iff.mp performed
    exact (kept.withHost _).emitWithin? delivered

theorem wake?_kept {limit worker : Nat} {signal : Signal} (kept : c.Kept)
    (woken : wake? limit worker c signal = some c') : c'.Kept := by
  unfold wake? at woken
  split at woken
  · cases woken
    exact kept
  · obtain ⟨last, performed, rfl⟩ := Option.map_eq_some_iff.mp woken
    have still : last.Kept :=
      foldlM_invariant (fun _ _ _ performed kept => perform?_kept kept performed) performed kept
    exact still.withHost _

theorem performAll_mute (limit worker : Nat) {effects : List Effect}
    (mute : effects.all Effect.isWrite = true) :
    ∃ link : Link, effects.foldlM (perform? limit worker) c = some { c with host := link } ∧
      link.view = c.host.view ∧ link.notes = c.host.notes := by
  induction effects generalizing c with
  | nil => exact ⟨c.host, rfl, rfl, rfl⟩
  | cons effect effects ih =>
    obtain ⟨write, mute⟩ := Bool.and_eq_true_iff.mp mute
    cases effect with
    | write frame =>
      exact ih (c := { c with host := c.host.record worker (.written frame) }) mute
    | beat frame => exact ih (c := { c with host := c.host.record worker (.beat frame) }) mute
    | _ => cases write

theorem wake?_mute (limit : Nat) (signal : Signal) (next : Stage) {stage : Stage} {cancelled : Bool}
    (listed : c.host.view.roster[id]? = some (stage, cancelled))
    (polled : ∀ now backoff, let polled := ConnectionLoop.poll cancelled now ⟨stage, backoff⟩ signal
      polled.1.stage = next ∧ polled.2.all Effect.isWrite = true) :
    ∃ link : Link, wake? limit id c signal = some { c with host := link } ∧
      link.view = c.host.view.enter id next ∧ link.notes = c.host.notes := by
  rw [Link.view_roster_getElem?] at listed
  obtain ⟨worker, here, same⟩ := Option.map_eq_some_iff.mp listed
  cases same
  obtain ⟨rfl, mute⟩ := polled c.host.clock worker.loop.backoff
  obtain ⟨link, performed, same, noted⟩ := performAll_mute limit id (c := c) mute
  let loop := (worker.loop.poll worker.cancelled c.host.clock signal).1
  refine ⟨link.setLoop id loop, ?_, by rw [Link.setLoop_view, same], noted⟩
  unfold wake?
  rw [here]
  exact congrArg (Option.map fun c : Client => { c with host := c.host.setLoop id loop }) performed

end Client

namespace SharedClient

variable {limit id : Nat} {u u' : SharedClient}

theorem run?_append_iff {actions later : List Action} :
    u.run? limit (actions ++ later) = some u' ↔
      ∃ middle, u.run? limit actions = some middle ∧ middle.run? limit later = some u' := by
  rw [run?, List.foldlM_append]
  exact Option.bind_eq_some_iff

theorem run?_arrival (limit : Nat) (calm : u.client.Calm (Client.OpenAt id)) {a : Arrival}
    (isFrame : a.message.isFrame = true) :
    ∃ u' groups, u.run? (limit + 1) ((Happening.arrival a).actions id) = some u' ∧
      u.client.Delivers id a.events groups u'.client := by
  let timed : Link := { u.client.host with clock := a.time }
  have calm' : ({ u.client with host := timed } : Client).Calm (Client.OpenAt id) :=
    ⟨calm.kept.withHost timed, calm.host, calm.quiet⟩
  obtain ⟨c', groups, woken, delivers⟩ := Client.wake?_delivers limit calm' isFrame rfl
  refine ⟨{ u with client := c' }, groups, ?_,
    delivers.withLink delivers.calm.host rfl rfl⟩
  refine run?_cons_iff.mpr ⟨{ u with client.host.clock := a.time }, rfl, ?_⟩
  refine run?_cons_iff.mpr ⟨{ u with client := c' }, ?_, rfl⟩
  exact congrArg (Option.map fun client => { u with client }) woken

theorem run?_written (limit : Nat) (calm : u.client.Calm (Client.OpenAt id)) (link : Link)
    {stage : Stage} (entered : link.view = u.client.host.view.enter id stage)
    (noted : link.notes = u.client.host.notes)
    (writes : ∀ now backoff, ConnectionLoop.poll false now ⟨stage, backoff⟩ .written =
      (⟨.session, backoff⟩, [])) :
    ∃ u', run? limit { u with client.host := link } [.wake id .written] = some u' ∧
      u.client.Delivers id [] [] u'.client := by
  have listed : link.view.roster[id]? = some (stage, false) := by
    rw [entered, View.enter, List.getElem?_modify_eq, calm.host.listed]
    rfl
  obtain ⟨last, woken, same, still⟩ := Client.wake?_mute (c := { u.client with host := link }) limit
    .written .session listed fun now backoff => by rw [writes]; exact ⟨rfl, rfl⟩
  refine ⟨{ u with client.host := last }, run?_cons_iff.mpr ⟨_, ?_, rfl⟩, ?_⟩
  · exact congrArg (Option.map fun client => { u with client }) woken
  · refine (Client.Delivers.refl calm).withLink ?_ rfl (still.trans noted)
    rw [same, entered]
    exact calm.host.enter stage

theorem run?_happening (limit : Nat) (calm : u.client.Calm (Client.OpenAt id)) (h : Happening)
    (isFrame : ∀ a, h.arrival? = some a → a.message.isFrame = true) :
    ∃ u' groups, u.run? (limit + 1) (h.actions id) = some u' ∧
      u.client.Delivers id (h.arrival?.elim [] Arrival.events) groups u'.client := by
  cases h with
  | arrival a => exact run?_arrival limit calm (isFrame a rfl)
  | send topic data =>
    -- the frame is queued, so no error is told
    obtain ⟨asked, calm'⟩ := Emitter.askWith?_calm (Client.hostQuiet_answer id)
      (Emitter.emit? Client.answer (limit + 1)) calm (.send topic data)
    refine ⟨{ u with client.host := (Client.answerSend u.client.host topic data).1 }, [],
      run?_cons_iff.mpr ⟨_, ?_, rfl⟩, (Client.Delivers.refl calm).withLink calm'.host rfl
        (Client.answerSend_records ..).notes⟩
    change ((Emitter.ask? _ _ _ _).map _).map _ = _
    rw [Emitter.ask?, asked]
    rfl
  | write =>
    rcases Client.writeNext?_cases (limit + 1) id u.client with idle | ⟨workers, frame, same, woken⟩
    · -- the queue is empty, so there is no write to end
      obtain ⟨u', ran, delivers⟩ := run?_written (limit + 1) calm u.client.host
        (View.enter_self calm.host.listed).symm rfl fun _ _ => rfl
      exact ⟨u', [], run?_cons_iff.mpr ⟨u, congrArg (Option.map _) idle, ran⟩, delivers⟩
    · obtain ⟨link, writing, entered, noted⟩ := Client.wake?_mute (limit + 1) (.outbound frame)
        .writing (c := { u.client with host := { u.client.host with workers } })
        (same ▸ calm.host.listed) fun _ _ => ⟨rfl, rfl⟩
      obtain ⟨u', ran, delivers⟩ := run?_written (limit + 1) calm link
        (entered.trans (congrArg (View.enter · id .writing) same)) noted fun _ _ => rfl
      refine ⟨u', [], run?_cons_iff.mpr ⟨_, ?_, ran⟩, delivers⟩
      exact congrArg (Option.map fun client => { u with client }) (woken.trans writing)
  | beat =>
    obtain ⟨link, woken, same, noted⟩ := Client.wake?_mute (limit + 1) .tick .writing
      calm.host.listed fun _ _ => ⟨rfl, rfl⟩
    obtain ⟨u', ran, delivers⟩ := run?_written (limit + 1) calm link same noted fun _ _ => rfl
    exact ⟨u', [], run?_cons_iff.mpr ⟨_, congrArg (Option.map _) woken, ran⟩, delivers⟩

theorem run?_happenings (limit : Nat) (calm : u.client.Calm (Client.OpenAt id))
    (course : List Happening) (frames : ∀ a ∈ course.filterMap Happening.arrival?,
      a.message.isFrame = true) :
    ∃ u' groups, u.run? (limit + 1) (course.flatMap (Happening.actions id)) = some u' ∧
      u.client.Delivers id ((course.filterMap Happening.arrival?).flatMap Arrival.events) groups
        u'.client := by
  induction course generalizing u with
  | nil => exact ⟨u, [], rfl, .refl calm⟩
  | cons h course ih =>
    have isFrame : ∀ a, h.arrival? = some a → a.message.isFrame = true := by
      intro a arrived
      exact frames a (List.mem_filterMap.mpr ⟨h, List.mem_cons_self .., arrived⟩)
    obtain ⟨middle, groups, ran, first⟩ := run?_happening limit calm h isFrame
    obtain ⟨u', rest, later, last⟩ := ih first.calm fun a arrived => by
      obtain ⟨h, there, arrived⟩ := List.mem_filterMap.mp arrived
      exact frames a (List.mem_filterMap.mpr ⟨h, List.mem_cons_of_mem _ there, arrived⟩)
    refine ⟨u', groups ++ rest, ?_, ?_⟩
    · rw [List.flatMap_cons]
      exact run?_append_iff.mpr ⟨middle, ran, later⟩
    · have both := first.trans last
      cases arrived : h.arrival? with
      | none =>
        rw [arrived] at both
        rw [List.filterMap_cons_none arrived]
        exact both
      | some a =>
        rw [arrived] at both
        rw [List.filterMap_cons_some arrived, List.flatMap_cons]
        exact both

/-! ## Every run -/

theorem step?_kept {action : Action} (kept : u.client.Kept)
    (stepped : u.step? limit action = some u') : u'.client.Kept := by
  cases action with
  | connect | disconnect | wait =>
    cases stepped
    exact kept.withHost _
  | finishDisconnect id =>
    cases stepped
    split
    · exact kept.withHost _
    · exact kept
  | send topic data =>
    obtain ⟨_, sent, rfl⟩ := Option.map_eq_some_iff.mp stepped
    obtain ⟨_, asked, rfl⟩ := Option.map_eq_some_iff.mp sent
    exact kept.ask? asked
  | subscribe channel name listener =>
    cases stepped
    exact kept.subscribe ..
  | unsubscribe channel target =>
    cases stepped
    exact kept.unsubscribe ..
  | clear =>
    cases stepped
    exact kept.clear
  | wake id signal =>
    obtain ⟨c, woken, rfl⟩ := Option.map_eq_some_iff.mp stepped
    exact Client.wake?_kept kept woken
  | writeNext id =>
    obtain ⟨c, written, rfl⟩ := Option.map_eq_some_iff.mp stepped
    rcases Client.writeNext?_wake written with rfl | ⟨workers, frame, _, woken⟩
    · exact kept
    · exact Client.wake?_kept (kept.withHost _) woken

theorem run?_kept (actions : List Action) (kept : u.client.Kept)
    (ran : u.run? limit actions = some u') : u'.client.Kept :=
  foldlM_invariant (P := fun u => u.client.Kept) (fun _ _ _ stepped kept => step?_kept kept stepped)
    ran kept

/-- Whatever has happened before and whatever is sent meanwhile, what comes in on an open connection
reaches every listener on the channel of a name that is not removed, as `Routed` says, in the order
of its arrival and with no delivery within another. A typed listener on a topic reacts to what can
be read of the payloads, and if it takes notes of that, under a tag under which nobody else does,
these are the notes. No listener emits, as the client gives them no way to. -/
theorem run?_routed (settings : RealtimeSettings) (clock : Int) (actions : List Action)
    (ran : (start settings clock).run? limit actions = some u) (positive : 0 < limit)
    (isOpen : u.view.Open id)
    (quiet : ∀ channel, ∀ r ∈ u.client.registry.on channel, ∀ calls event,
      (r.listener calls event).Quiet)
    (course : List Happening) (arrivals : List Arrival)
    (brings : course.filterMap Happening.arrival? = arrivals)
    (frames : ∀ a ∈ arrivals, a.message.isFrame = true) :
    ∃ u' groups, u.run? limit (course.flatMap (Happening.actions id)) = some u' ∧
      u'.view.Open id ∧ u'.client.calls = u.client.calls ++ groups.flatten ∧
      List.Forall₂ (fun event group => ∀ call ∈ group, call.event = event)
        (arrivals.flatMap Arrival.events) groups ∧
      (∀ name r, u.client.Held (.ofName name) r →
        Routed name arrivals (heardBy r.id groups.flatten)) ∧
      (∀ name number label (α : Type) (read : Json → Option α) listener,
        u.client.Held (.topic (.ofName name)) ⟨number, label, .typed read listener⟩ →
        ∀ calls, (heardBy number groups.flatten).map (Listener.typed read listener calls) =
          ((arrivals.filterMap Arrival.frame?).filter (·.topic.name = name)).map
            fun f => (read f.data).elim .done listener) ∧
      ∀ name number label (α : Type) (read : Json → Option α) tag (note : α → Note),
        u.client.Held (.topic (.ofName name))
          ⟨number, label, .typed read fun a => .ask (.note tag (note a)) fun _ => .done⟩ →
        (Client.notebook tag).Sole number u.client →
        u'.client.host.notesUnder tag = u.client.host.notesUnder tag ++
          ((arrivals.filterMap Arrival.frame?).filter (·.topic.name = name)).filterMap
            fun f => (read f.data).map note := by
  obtain ⟨limit, rfl⟩ := Nat.exists_eq_add_one_of_ne_zero (Nat.ne_of_gt positive)
  have kept : u.client.Kept := run?_kept actions (.start _) ran
  subst brings
  obtain ⟨u', groups, ran', delivers⟩ :=
    run?_happenings limit (u := u) ⟨kept, isOpen, quiet⟩ course frames
  refine ⟨u', groups, ran', delivers.calm.host, delivers.calls, delivers.each, ?_, ?_, ?_⟩
  · intro name r held
    rw [delivers.heard _ r held]
    exact Arrival.routed _ name
  · intro name number label α read listener held calls
    rw [delivers.heard _ _ held, Arrival.filter_topic, List.map_map]
    refine List.map_congr_left fun f _ => ?_
    exact Listener.typed_data ..
  · intro name number label α read tag note held sole
    have noted := (delivers.noted _ _ held _ 
      (Listener.typed_ask read fun a => ClientRequest.note tag (note a)) tag sole).2
    rw [noted, Arrival.filter_topic, List.filterMap_map]
    refine congrArg _ (List.filterMap_congr fun f _ => ?_)
    cases value : read f.data <;> simp [Event.value?, value, Client.notebook]

def isTrue? : Json → Option Bool
  | .bool value => some value
  | _ => none

def echo : Listener ClientRequest :=
  .typed isTrue? fun value => .ask (.send .notification (.bool value)) fun _ => .done

def flags : Listener ClientRequest :=
  .typed isTrue? fun value => .ask (.note "flags" (.value (.bool value))) fun _ => .done

def namesakes : List Action :=
  [.connect, .wake 0 .look, .wake 0 .opened, .subscribe (.ofName "connected") "" .silent,
    .subscribe (.topic (.ofName "connected")) "" echo,
    .subscribe (.topic (.ofName "connected")) "" flags]

def mixture : List Happening :=
  [.beat, .arrival ⟨1, .text "\x7b\"type\":\"connected\",\"data\":true\x7d"⟩, .write,
    .arrival ⟨2, .ping⟩, .arrival ⟨3, .text "\x7b"⟩, .send .notification .null,
    .arrival ⟨4, .text "\x7b\"type\":\"connected\",\"data\":1\x7d"⟩]

theorem run?_routed_namesakes : ∃ u u' calls, (start loopback 0).run? 1 namesakes = some u ∧
    u.run? 1 (mixture.flatMap (Happening.actions 0)) = some u' ∧
    u'.client.calls = u.client.calls ++ calls ∧ heardBy 0 calls = [] ∧
    (heardBy 1 calls).map (echo 0) =
      [.ask (.send .notification (.bool true)) fun _ => .done, .done] ∧
    u'.client.host.notesUnder "flags" = [.value (.bool true)] := by
  have known : ((start loopback 0).run? 1 (namesakes.take 3)).any fun u =>
      u.client.registry.channels.isEmpty && u.client.registry.nextId = 0 &&
        u.client.host.notes.isEmpty && u.client.isConnected && u.view.outbound = some 0 &&
        u.view.slot = some 0 && u.view.roster = [(.session, false)] := by decide +kernel
  obtain ⟨u, ran, known⟩ := (Option.any_eq_true ..).mp known
  simp only [Bool.and_eq_true, decide_eq_true_eq, List.isEmpty_iff, and_assoc] at known
  obtain ⟨empty, first, blank, opened, outbound, slot, roster⟩ := known
  let u' : SharedClient := { u with
    client := (((u.client.subscribe (.ofName "connected") "" .silent).1.subscribe
      (.topic (.ofName "connected")) "" echo).1.subscribe
      (.topic (.ofName "connected")) "" flags).1 }
  have ran' : (start loopback 0).run? 1 namesakes = some u' :=
    run?_append_iff.mpr ⟨u, ran, rfl⟩
  have isOpen : u'.view.Open 0 :=
    ⟨⟨of_decide_eq_true opened, outbound⟩, slot, congrArg (·[0]?) roster⟩
  have none (channel : Channel) : u.client.registry.on channel = [] := by
    rw [Registry.on, empty]
    rfl
  have apart : Channel.ofName "connected" ≠ .topic (.ofName "connected") := by decide
  have on (channel : Channel) : u'.client.registry.on channel =
      if channel = .topic (.ofName "connected") then [⟨1, "", echo⟩, ⟨2, "", flags⟩]
      else if channel = .ofName "connected" then [⟨0, "", .silent⟩] else [] := by
    simp only [u', Emitter.subscribe, Emitter.register, Registry.on_subscribe, none]
    by_cases topic : channel = .topic (.ofName "connected")
    · simp [topic, apart.symm, first, Registry.subscribe]
    · by_cases name : channel = .ofName "connected" <;> simp [topic, name, apart, first]
  have every {P : Registration (Listener ClientRequest) → Prop} (silent : P ⟨0, "", .silent⟩)
      (echoes : P ⟨1, "", echo⟩) (takesNotes : P ⟨2, "", flags⟩) :
      ∀ channel, ∀ r ∈ u'.client.registry.on channel, P r := by
    intro channel r there
    rw [on] at there
    split at there
    · exact List.forall_mem_cons.mpr ⟨echoes, List.forall_mem_singleton.mpr takesNotes⟩ r there
    · split at there
      · exact List.forall_mem_singleton.mpr silent r there
      · cases there
  have harmless {P : Reaction ClientRequest → Prop} (done : P .done)
      (asks : ∀ request, P (.ask request fun _ => .done)) :
      ∀ channel, ∀ r ∈ u'.client.registry.on channel, ∀ calls event,
        P (r.listener calls event) :=
    every (fun _ _ => done) (Listener.typed_holds done fun _ => asks _)
      (Listener.typed_holds done fun _ => asks _)
  have held {channel : Channel} {r : Registration (Listener ClientRequest)}
      (there : r ∈ u'.client.registry.on channel) : u'.client.Held channel r :=
    ⟨there, harmless trivial fun _ _ => trivial⟩
  have reserved : u'.client.Held (.ofName "connected") ⟨0, "", .silent⟩ :=
    held (by simp [on, apart])
  have answering : u'.client.Held (.topic (.ofName "connected")) ⟨1, "", echo⟩ :=
    held (by simp [on])
  have noting : u'.client.Held (.topic (.ofName "connected")) ⟨2, "", flags⟩ :=
    held (by simp [on])
  have sole : (Client.notebook "flags").Sole 2 u'.client :=
    every (fun _ _ _ => trivial)
      (fun _ => Listener.typed_holds trivial fun _ => ⟨rfl, fun _ => trivial⟩)
      fun other => (other rfl).elim
  obtain ⟨last, groups, ran, _, calls, _, routed, typed, noted⟩ := run?_routed loopback 0 namesakes
    ran' Nat.one_pos isOpen (harmless trivial fun _ _ => trivial) mixture _ rfl (by decide)
  have values : (((mixture.filterMap Happening.arrival?).filterMap Arrival.frame?).filter
      (·.topic.name = "connected")).map (isTrue? ·.data) = [some true, .none] := by decide +kernel
  refine ⟨u', last, groups.flatten, ran', ran, calls, ?_, ?_, ?_⟩
  · exact (routed "connected" _ reserved).other (by simp)
  · refine (typed "connected" 1 "" Bool isTrue? _ answering 0).trans ?_
    have reactions := congrArg (List.map fun value? => value?.elim .done
      fun value => Reaction.ask (ClientRequest.send .notification (.bool value)) fun _ => .done)
      values
    rwa [List.map_map] at reactions
  · refine (noted "connected" 2 "" Bool isTrue? "flags" _ noting sole).trans ?_
    have notes := congrArg
      (List.filterMap (Option.map fun value => Note.value (.bool value))) values
    rw [List.filterMap_map] at notes
    rw [Link.notesUnder, show u'.client.host.notes = [] from blank]
    exact notes

end SharedClient

end ControlPanel
