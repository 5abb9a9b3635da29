import ControlPanel.Monitor.Watch
import ControlPanel.Proofs.Listeners.Scribes
import ControlPanel.Proofs.Realtime.Attachments
import ControlPanel.Proofs.Realtime.Attempts
import ControlPanel.Proofs.Realtime.View

/-!
# What is written down of a watched client

The listeners of a watched client are scribes: those of the log, and as long as they are attached
those of the cache and of the binding (`Watch.staffed_start`, `Watch.staffed_release`). So an effect
of a worker always has a result, what is written down is what has been emitted, and the rest of the
link is as if there were no listeners (`Watch.Keeps.performAll`).
-/

namespace ControlPanel

/-! ## Desks -/

abbrev Desk := Channel × (Event → Option ClientRequest)

def Desk.IsQuiet (desk : Desk) : Prop :=
  ∀ event request, desk.2 event = some request → ∀ link, (Client.answer request link).2.2 = none

def Desk.entry (desk : Desk) : Channel × Listener ClientRequest := (desk.1, .scribe desk.2)

namespace Client

theorem staffed_subscribeAll {c : Client} {desks : List Desk}
    (staffed : Emitter.Staffed answer desks c) (new : List Desk)
    (quiet : ∀ desk ∈ new, desk.IsQuiet) :
    Emitter.Staffed answer (desks ++ new) (c.subscribeAll (new.map Desk.entry)).1 := by
  refine ⟨fun channel => ?_, fun desk listed => ?_⟩
  · obtain ⟨come, on, listened, _⟩ := c.on_subscribeAll (new.map Desk.entry) channel
    rw [on, List.map_append, staffed.on, listened, List.filter_map, List.map_map,
      List.filter_append, List.map_append]
    rfl
  · exact (List.mem_append.mp listed).elim (staffed.quiet desk) (quiet desk)

end Client

namespace TopicCache

def request? (id limit : Nat) : Event → Option ClientRequest
  | .data topic data timestamp => some (.cache id limit topic ⟨data, timestamp⟩)
  | _ => none

def desks (id limit : Nat) (topics : List Topic) : List Desk :=
  topics.map fun topic => (.topic topic, request? id limit)

/-- A cache is asked for one thing at most, though it has many desks. -/
theorem requests_desks {topics : List Topic} (distinct : topics.Nodup) {id limit : Nat}
    (event : Event) : Emitter.requests (desks id limit topics) event =
      if event.channel ∈ topics.map .topic then (request? id limit event).toList else [] := by
  induction topics with
  | nil => rfl
  | cons topic topics ih =>
    obtain ⟨other, distinct⟩ := List.nodup_cons.mp distinct
    have rest := ih distinct
    have first : Emitter.requests (desks id limit (topic :: topics)) event =
        Emitter.requests [(.topic topic, request? id limit)] event ++
          Emitter.requests (desks id limit topics) event :=
      Emitter.requests_append [(.topic topic, request? id limit)] _ event
    rw [first, rest]
    by_cases here : event.channel = .topic topic
    · have own : Emitter.requests [(.topic topic, request? id limit)] event =
          (request? id limit event).toList := by
        rw [Emitter.requests, List.filter_cons_of_pos (by simp [here])]
        cases asked : request? id limit event <;> simp [asked]
      simp [own, here, other]
    · simp [Emitter.requests, here, Ne.symm here]

theorem numbered_attach {c : Client} (numbered : c.registry.Numbered) (topics : List Topic)
    (limit : Nat) : (attach c topics limit).1.registry.Numbered :=
  (Client.registers_subscribeAll
    { c with host := { c.host with caches := c.host.caches ++ [.empty] } } _).numbered numbered

theorem on_detach {c d : Client} (numbered : c.registry.Numbered) (distinct : d.registry.Distinct)
    (topics : List Topic) (limit : Nat) {channel : Channel}
    (same : d.registry.on channel = (attach c topics limit).1.registry.on channel) :
    ((attach c topics limit).2.detach d).registry.on channel = c.registry.on channel :=
  Client.on_release_subscribeAll
    (c := { c with host := { c.host with caches := c.host.caches ++ [.empty] } })
    numbered distinct same

end TopicCache

namespace Binding

def failure? (id : Nat) : Event → Option ClientRequest
  | .error error => some (.tellBinding id (.failed error))
  | _ => none

def desks (id : Nat) : List Desk :=
  [(.connected, fun _ => some (.tellBinding id .opened)),
    (.disconnected, fun _ => some (.tellBinding id .lost)), (.error, failure? id)]

def hosted (c : Client) : Client :=
  { c with host.bindings := c.host.bindings ++ [⟨⟨c.isConnected, none⟩, 0⟩] }

theorem attach_registry (c : Client) (autoConnect : Bool) : (attach c autoConnect).1.registry =
    ((hosted c).subscribeAll (listeners c.host.bindings.length)).1.registry := by
  unfold attach
  dsimp only
  split <;> rfl

theorem numbered_attach {c : Client} (numbered : c.registry.Numbered) (autoConnect : Bool) :
    (attach c autoConnect).1.registry.Numbered := by
  rw [attach_registry]
  exact ((hosted c).registers_subscribeAll _).numbered numbered

theorem on_detach {c d : Client} (numbered : c.registry.Numbered) (distinct : d.registry.Distinct)
    (autoConnect : Bool) {channel : Channel}
    (same : d.registry.on channel = (attach c autoConnect).1.registry.on channel) :
    ((attach c autoConnect).2.detach d).registry.on channel = c.registry.on channel := by
  rw [attach_registry] at same
  exact Client.on_release_subscribeAll (c := hosted c) numbered distinct same

end Binding

namespace Watch

def logDesks : List Desk :=
  channels.map fun channel => (channel, fun event => some (.note "" (.event event)))

theorem isQuiet_of_mem_logDesks : ∀ desk ∈ logDesks, desk.IsQuiet := by
  intro desk listed event request asked link
  obtain ⟨channel, _, rfl⟩ := List.mem_map.mp listed
  cases asked
  rfl

def desks (attached : Bool) : List Desk :=
  logDesks ++ if attached then TopicCache.desks 0 0 Topic.catalog ++ Binding.desks 0 else []

/-! ## Attached and released -/

variable (settings : RealtimeSettings) (clock : Int)

def logged : Client :=
  ((Client.start settings clock).subscribeAll (logDesks.map Desk.entry)).1

theorem staffed_logged : Emitter.Staffed Client.answer logDesks (logged settings clock) := by
  have nobody : Emitter.Staffed Client.answer [] (Client.start settings clock) :=
    ⟨fun _ => rfl, fun _ => nofun⟩
  exact Client.staffed_subscribeAll nobody logDesks isQuiet_of_mem_logDesks

theorem numbered_logged : (logged settings clock).registry.Numbered :=
  ((Client.start settings clock).registers_subscribeAll _).numbered Registry.numbered_empty

def cached : Client := (TopicCache.attach (logged settings clock) Topic.catalog 0).1

theorem numbered_cached : (cached settings clock).registry.Numbered :=
  TopicCache.numbered_attach (numbered_logged settings clock) Topic.catalog 0

theorem on_release {w : Watch}
    (registry : w.client.registry = (start (.start settings clock)).client.registry)
    (cache : w.cache = (start (.start settings clock)).cache)
    (binding : w.binding = (start (.start settings clock)).binding) (channel : Channel) :
    w.release.registry.on channel = (logged settings clock).registry.on channel := by
  have numbered : w.client.registry.Numbered := by
    rw [registry]
    exact Binding.numbered_attach (numbered_cached settings clock) true
  have unbound : (w.binding.detach w.client).registry.on channel =
      (cached settings clock).registry.on channel := by
    rw [binding]
    refine Binding.on_detach (numbered_cached settings clock) numbered.distinct true ?_
    rw [registry]
    rfl
  rw [release, cache]
  exact TopicCache.on_detach (numbered_logged settings clock)
    (Client.release_distinct numbered.distinct _) Topic.catalog 0 unbound

theorem staffed_release {w : Watch}
    (registry : w.client.registry = (start (.start settings clock)).client.registry)
    (cache : w.cache = (start (.start settings clock)).cache)
    (binding : w.binding = (start (.start settings clock)).binding) :
    Emitter.Staffed Client.answer (desks false) w.release := by
  have logs := staffed_logged settings clock
  refine ⟨fun channel => ?_, fun desk listed => logs.quiet desk (by simpa [desks] using listed)⟩
  rw [on_release settings clock registry cache binding, logs.on, desks]
  simp

/-! ## What is written down -/

def notes (events : List Event) : List (String × Note) :=
  (events.filter (·.channel ∈ channels)).map fun event => ("", .event event)

def told (contents : CacheContents) : Event → CacheContents
  | .data topic data timestamp =>
    if topic ∈ Topic.catalog then contents.record 0 topic ⟨data, timestamp⟩ else contents
  | _ => contents

end Watch

namespace Link

def bare (l : Link) : Link := { l with bindings := [], caches := [], notes := [] }

theorem bare_perform (l : Link) (id : Nat) (effect : Effect) :
    (l.perform id effect).1.bare = (l.bare.perform id effect).1 := by
  cases effect <;> rfl

theorem perform_event (l : Link) (id : Nat) (effect : Effect) :
    (l.perform id effect).2 = effect.event? := by
  cases effect <;> rfl

end Link

namespace Watch

theorem write_logDesks (event : Event) (link : Link) :
    Emitter.write Client.answer (Emitter.requests logDesks event) link =
      { link with notes := link.notes ++ notes [event] } := by
  cases event with
  | data => exact congrArg (fun notes => { link with notes }) (List.append_nil _).symm
  | _ => rfl

theorem write_cacheDesks (event : Event) (link : Link) :
    Emitter.write Client.answer (Emitter.requests (TopicCache.desks 0 0 Topic.catalog) event) link =
      { link with caches := link.caches.modify 0 fun contents => told contents event } := by
  rw [TopicCache.requests_desks (by decide)]
  have unheard : link.caches.modify 0 (fun contents => contents) = link.caches :=
    List.modify_id 0 link.caches
  cases event with
  | data topic data timestamp =>
    by_cases known : topic ∈ Topic.catalog
    · have listed : (Event.data topic data timestamp).channel ∈ Topic.catalog.map .topic :=
        List.mem_map_of_mem known
      rw [if_pos listed]
      simp only [told, if_pos known]
      rfl
    · have other : (Event.data topic data timestamp).channel ∉ Topic.catalog.map .topic := by
        simpa [Event.channel] using known
      rw [if_neg other]
      simp only [told, if_neg known, unheard]
      rfl
  | _ =>
    simp only [told, unheard]
    rfl

theorem write_bindingDesks (id : Nat) (event : Event) (link : Link) : ∃ bindings,
    Emitter.write Client.answer (Emitter.requests (Binding.desks id) event) link =
      { link with bindings } := by
  cases event <;> exact ⟨_, rfl⟩

theorem write_desks (attached : Bool) (event : Event) (link : Link) :
    let link' := Emitter.write Client.answer (Emitter.requests (desks attached) event) link
    link'.bare = link.bare ∧ link'.notes = link.notes ++ notes [event] ∧
      (attached = true → link'.caches =
        link.caches.modify 0 fun contents => told contents event) := by
  simp only [desks, Emitter.requests_append, Emitter.write_append, write_logDesks]
  cases attached with
  | false => exact ⟨rfl, rfl, nofun⟩
  | true =>
    simp only [if_true, Emitter.requests_append, Emitter.write_append, write_cacheDesks]
    obtain ⟨bindings, written⟩ := write_bindingDesks 0 event
      { link with
        notes := link.notes ++ notes [event]
        caches := link.caches.modify 0 fun contents => told contents event }
    rw [written]
    exact ⟨rfl, rfl, fun _ => rfl⟩

end Watch

/-! ## What the cache holds -/

namespace Event

def datum? : Event → Option Frame
  | .data topic payload timestamp => some ⟨topic, payload, timestamp⟩
  | _ => none

def frame? : Event → Option Frame
  | .message frame => some frame
  | _ => none

end Event

def Topic.last? (topic : Topic) (frames : List Frame) : Option Frame :=
  (frames.filter (·.topic = topic)).getLast?

theorem Topic.last?_concat (topic : Topic) (frames : List Frame) (f : Frame) :
    topic.last? (frames ++ [f]) = if f.topic = topic then some f else topic.last? frames := by
  unfold last?
  rw [List.filter_append]
  split
  · rename_i own
    rw [List.filter_cons_of_pos (by simpa using own), List.filter_nil, List.getLast?_concat]
  · rename_i other
    rw [List.filter_cons_of_neg (by simpa using other), List.filter_nil, List.append_nil]

def CacheContents.Follows (contents : CacheContents) (events : List Event) : Prop :=
  ∀ topic ∈ Topic.catalog, contents.latest topic =
    (topic.last? (events.filterMap Event.datum?)).map fun f => ⟨f.data, f.timestamp⟩

theorem CacheContents.Follows.told {contents : CacheContents} {events : List Event}
    (follows : contents.Follows events) (event : Event) :
    (Watch.told contents event).Follows (events ++ [event]) := by
  intro topic known
  cases event with
  | data other data timestamp =>
    have more : (events ++ [Event.data other data timestamp]).filterMap Event.datum? =
        events.filterMap Event.datum? ++ [⟨other, data, timestamp⟩] := by
      rw [List.filterMap_append]
      rfl
    rw [more, Topic.last?_concat]
    by_cases own : other = topic
    · subst own
      simp [Watch.told, known, record]
    · rw [if_neg own, ← follows topic known, Watch.told]
      split
      · simp [record, Ne.symm own]
      · rfl
  | _ =>
    rw [List.filterMap_append, List.filterMap_cons_none rfl, List.filterMap_nil, List.append_nil]
    exact follows topic known

/-! ## Effects -/

/-- The client has scribes as listeners, and they have written down what it has emitted. -/
structure Watch.Keeps (attached : Bool) (c : Client) : Prop where
  staffed : Emitter.Staffed Client.answer (desks attached) c
  notes : c.host.notes = notes c.emitted
  cached : attached = true →
    ∃ contents : CacheContents, c.host.caches = [contents] ∧ contents.Follows c.emitted

structure Watch.GoesOn (attached : Bool) (c c' : Client) (events : List Event) (link : Link) :
    Prop where
  keeps : Keeps attached c'
  registry : c'.registry = c.registry
  emitted : c'.emitted = c.emitted ++ events
  bare : c'.host.bare = link

namespace Watch

theorem notes_append (events events' : List Event) :
    notes (events ++ events') = notes events ++ notes events' := by
  simp only [notes, List.filter_append, List.map_append]

variable {attached : Bool} {c : Client}

theorem Keeps.withHost (keeps : Keeps attached c) {link : Link}
    (notes : link.notes = c.host.notes) (caches : link.caches = c.host.caches) :
    Keeps attached { c with host := link } where
  staffed := keeps.staffed.of_registry_eq rfl
  notes := notes.trans keeps.notes
  cached isAttached := caches ▸ keeps.cached isAttached

variable {limit : Nat}

theorem Keeps.emit? (keeps : Keeps attached c) (positive : 0 < limit) (event : Event) :
    ∃ c' called, c.emit? Client.answer limit event = some (c', called) ∧
      GoesOn attached c c' [event] c.host.bare := by
  obtain ⟨c', called, delivered, registry, emitted, written⟩ :=
    Emitter.emit?_staffed positive keeps.staffed event
  obtain ⟨bare, noted, caches⟩ := write_desks attached event c.host
  rw [← written] at bare noted caches
  refine ⟨c', called, delivered, ⟨keeps.staffed.of_registry_eq registry, ?_, ?_⟩, registry, emitted,
    bare⟩
  · rw [noted, keeps.notes, emitted, notes_append]
  · intro isAttached
    obtain ⟨contents, only, follows⟩ := keeps.cached isAttached
    refine ⟨told contents event, ?_, emitted ▸ follows.told event⟩
    rw [caches isAttached, only]
    rfl

theorem Keeps.perform? (keeps : Keeps attached c) (positive : 0 < limit) (id : Nat)
    (effect : Effect) : ∃ c', Client.perform? limit id c effect = some c' ∧
      GoesOn attached c c' effect.event?.toList (c.host.bare.perform id effect).1 := by
  have kept : Keeps attached { c with host := (c.host.perform id effect).1 } :=
    keeps.withHost (c.host.perform_records id effect).notes
      (c.host.perform_records id effect).caches
  have bare := c.host.bare_perform id effect
  have told := c.host.perform_event id effect
  unfold Client.perform?
  split
  rename_i link event done
  rw [done] at kept bare told
  subst told
  cases effect.event? with
  | none => exact ⟨_, rfl, kept, rfl, (List.append_nil _).symm, bare⟩
  | some event =>
    obtain ⟨c', called, delivered, goesOn⟩ := kept.emit? positive event
    refine ⟨c', by simp only [delivered, Option.map_some], ?_⟩
    exact ⟨goesOn.keeps, goesOn.registry, goesOn.emitted, goesOn.bare.trans bare⟩

theorem Keeps.performAll (keeps : Keeps attached c) (positive : 0 < limit) (id : Nat)
    (effects : List Effect) : ∃ c', effects.foldlM (Client.perform? limit id) c = some c' ∧
      GoesOn attached c c' (emitted effects) (c.host.bare.performAll id effects) := by
  induction effects generalizing c with
  | nil => exact ⟨c, rfl, keeps, rfl, (List.append_nil _).symm, rfl⟩
  | cons effect effects ih =>
    obtain ⟨middle, performed, first⟩ := keeps.perform? positive id effect
    obtain ⟨c', rest, later⟩ := ih first.keeps
    refine ⟨c', ?_, later.keeps, later.registry.trans first.registry, ?_, ?_⟩
    · rw [List.foldlM_cons, performed]
      exact rest
    · rw [later.emitted, first.emitted, List.append_assoc]
      cases effect <;> rfl
    · rw [later.bare, first.bare]
      rfl

/-- Waking a worker of a watched client always has a result: nothing happens, or its loop makes a
move and nothing else does. -/
theorem Keeps.wake? (keeps : Keeps attached c) (positive : 0 < limit) (id : Nat)
    (signal : Signal) : ∃ c', Client.wake? limit id c signal = some c' ∧
      (c' = c ∨ ∃ worker loop effects, c.host.workers[id]? = some worker ∧
        ConnectionLoop.Move worker.cancelled c.host.clock worker.loop.backoff worker.loop.stage loop
          effects ∧
        GoesOn attached c c' (emitted effects)
          ((c.host.bare.performAll id effects).setLoop id loop)) := by
  unfold Client.wake?
  split
  · exact ⟨c, rfl, .inl rfl⟩
  · rename_i worker listed
    have move := worker.loop.poll_move worker.cancelled c.host.clock signal
    obtain ⟨d, performed, goesOn⟩ := keeps.performAll positive id
      (worker.loop.poll worker.cancelled c.host.clock signal).2
    refine ⟨_, Option.map_eq_some_iff.mpr ⟨d, performed, rfl⟩, .inr ⟨worker, _, _, listed, move,
      goesOn.keeps.withHost rfl rfl, goesOn.registry, goesOn.emitted, ?_⟩⟩
    rw [← goesOn.bare]
    rfl

end Watch

end ControlPanel
