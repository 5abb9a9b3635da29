import ControlPanel.Proofs.Listeners.Calls
import ControlPanel.Proofs.Monitor.Watching
import ControlPanel.Proofs.Realtime.Bindings

/-!
# What reaches a cache

A `Sink` is the part of a client into which one cache has its payloads written. Only the listeners
of the cache write there (`Sink.Guards`), so a deed adds the frames to it that are delivered
meanwhile on the topics of the cache, once each and in order, if the listeners are still registered
afterwards (`Sink.Guards.deed?`).
-/

namespace ControlPanel

/-! ## Leaving a cache alone -/

def ClientRequest.Leaves (id : Nat) : ClientRequest → Prop
  | cache other .. => other ≠ id
  | _ => True

/-- Nothing is emitted or written to a cache, and nobody is removed from some channels, by the
listeners that are registered either. -/
def Reaction.Leaves (id : Nat) (guarded : List Channel) : Reaction ClientRequest → Prop
  | .done => True
  | .panic => True
  | .subscribe _ _ listener next =>
    (∀ calls event, (listener calls event).Leaves id guarded) ∧ ∀ n, (next n).Leaves id guarded
  | .unsubscribe channel _ next => channel ∉ guarded ∧ ∀ removed, (next removed).Leaves id guarded
  | .emit _ _ => False
  | .count _ next => ∀ count, (next count).Leaves id guarded
  | .clear next => guarded = [] ∧ next.Leaves id guarded
  | .ask request next => request.Leaves id ∧ ∀ answer, (next answer).Leaves id guarded

theorem Binding.leaves_of_mem_listeners {b : Nat} {entry : Channel × Listener ClientRequest}
    (listed : entry ∈ listeners b) (id : Nat) (guarded : List Channel) (calls : Nat)
    (event : Event) : (entry.2 calls event).Leaves id guarded := by
  simp only [listeners, List.mem_cons, List.not_mem_nil, or_false] at listed
  rcases listed with rfl | rfl | rfl
  · exact ⟨trivial, fun _ => trivial⟩
  · exact ⟨trivial, fun _ => trivial⟩
  · cases event with
    | error => exact ⟨trivial, fun _ => trivial⟩
    | _ => trivial

theorem TopicCache.leaves_listener {id other : Nat} (apart : other ≠ id) (size : Nat)
    (guarded : List Channel) (calls : Nat) (event : Event) :
    (listener other size calls event).Leaves id guarded := by
  cases event with
  | data => exact ⟨apart, fun _ => trivial⟩
  | _ => trivial

namespace Client

theorem answer_caches {request : ClientRequest} {id : Nat} (leaves : request.Leaves id)
    (link : Link) : (answer request link).1.caches.length = link.caches.length ∧
      (answer request link).1.caches[id]? = link.caches[id]? := by
  cases request with
  | connect =>
    rw [answer, link.connect_records.caches]
    exact ⟨rfl, rfl⟩
  | send topic data =>
    rw [answer, (answerSend_records link topic data).caches]
    exact ⟨rfl, rfl⟩
  | note | isConnected | bind | tellBinding => exact ⟨rfl, rfl⟩
  | cache other size topic payload =>
    exact ⟨List.length_modify .., List.getElem?_modify_ne _ _ leaves⟩

theorem answer_event (request : ClientRequest) (link : Link) :
    ∀ event, (answer request link).2.2 = some event → event.datum? = none := by
  intro event told
  cases request with
  | send topic data =>
    change (answerSend link topic data).2.2 = some event at told
    unfold answerSend at told
    split at told
    · cases told
    · cases told
      rfl
  | _ => cases told

def frames (c : Client) : List Frame := c.emitted.filterMap Event.datum?

def Has (c : Client) (entry : Channel × Nat) : Prop := ∃ r ∈ c.registry.on entry.1, r.id = entry.2

def HasAll (c : Client) (subscriptions : Subscriptions) : Prop :=
  ∀ entry ∈ subscriptions, c.Has entry

theorem frames_withEvent (c : Client) (event : Event) :
    frames { c with emitted := c.emitted ++ [event] } = c.frames ++ event.datum?.toList := by
  cases datum : event.datum? <;> simp [frames, List.filterMap_append, datum]

end Client

/-! ## Sinks -/

/-- The number, the limit and the registrations of a cache, and channels from which nobody is
removed. -/
structure Sink where
  number : Nat
  size : Nat
  subscriptions : Subscriptions
  guarded : List Channel

namespace Sink

def take (k : Sink) (contents : CacheContents) (f : Frame) : CacheContents :=
  if .topic f.topic ∈ k.subscriptions.map Prod.fst then
    contents.record k.size f.topic ⟨f.data, f.timestamp⟩
  else contents

def after (k : Sink) (frames : List Frame) (contents : CacheContents) : CacheContents :=
  frames.foldl k.take contents

/-- The registrations of a sink are those of the cache's listener, one on each of some topics, and
the other listeners leave the cache alone. -/
structure Guards (k : Sink) (c : Client) : Prop where
  numbered : c.registry.Numbered
  given : ∀ entry ∈ k.subscriptions, entry.2 < c.registry.nextId
  single : (k.subscriptions.map Prod.fst).Nodup
  topical : ∀ entry ∈ k.subscriptions, ∃ topic, entry.1 = .topic topic
  own : ∀ channel, ∀ r ∈ c.registry.on channel, (channel, r.id) ∈ k.subscriptions →
    r.listener = TopicCache.listener k.number k.size
  others : ∀ channel, ∀ r ∈ c.registry.on channel, (channel, r.id) ∉ k.subscriptions →
    ∀ calls event, (r.listener calls event).Leaves k.number k.guarded

structure Passes (k : Sink) (new : List Frame) (change : CacheContents → CacheContents)
    (c c' : Client) : Prop where
  next : c.registry.nextId ≤ c'.registry.nextId
  older : ∀ entry, entry.2 < c.registry.nextId → c'.Has entry → c.Has entry
  kept : ∀ entry ∈ k.subscriptions, entry.1 ∈ k.guarded → c.Has entry → c'.Has entry
  frames : c'.frames = c.frames ++ new
  contents : c'.HasAll k.subscriptions →
    c'.host.caches[k.number]? = c.host.caches[k.number]?.map change

structure Goes (k : Sink) (new : List Frame) (change : CacheContents → CacheContents)
    (c c' : Client) : Prop where
  guards : k.Guards c'
  length : c'.host.caches.length = c.host.caches.length
  passes : k.Passes new change c c'

variable {k : Sink} {new new' : List Frame} {change change' : CacheContents → CacheContents}
  {c c₁ c' : Client}

theorem Passes.hasAll (passes : k.Passes new change c c')
    (given : ∀ entry ∈ k.subscriptions, entry.2 < c.registry.nextId)
    (all : c'.HasAll k.subscriptions) : c.HasAll k.subscriptions :=
  fun entry own => passes.older entry (given entry own) (all entry own)

theorem Passes.trans (first : k.Passes new change c c₁) (second : k.Passes new' change' c₁ c')
    (given : ∀ entry ∈ k.subscriptions, entry.2 < c₁.registry.nextId) :
    k.Passes (new ++ new') (change' ∘ change) c c' where
  next := Nat.le_trans first.next second.next
  older := fun entry old there =>
    first.older entry old (second.older entry (Nat.lt_of_lt_of_le old first.next) there)
  kept := fun entry own guarded there =>
    second.kept entry own guarded (first.kept entry own guarded there)
  frames := by rw [second.frames, first.frames, List.append_assoc]
  contents := fun all => by
    rw [second.contents all, first.contents (second.hasAll given all), Option.map_map]

theorem Goes.trans (first : k.Goes new change c c₁) (second : k.Goes new' change' c₁ c') :
    k.Goes (new ++ new') (change' ∘ change) c c' where
  guards := second.guards
  length := second.length.trans first.length
  passes := first.passes.trans second.passes first.guards.given

abbrev Stays (k : Sink) (c c' : Client) : Prop := k.Goes [] id c c'

theorem Goes.andStays (first : k.Goes new change c c₁) (second : k.Stays c₁ c') :
    k.Goes new change c c' := by
  have both := first.trans second
  rwa [List.append_nil] at both

/-! ## Steps -/

namespace Guards

variable (guards : k.Guards c)
include guards

theorem of_registry_eq (same : c'.registry = c.registry) : k.Guards c' where
  numbered := same ▸ guards.numbered
  given := same ▸ guards.given
  single := guards.single
  topical := guards.topical
  own := same ▸ guards.own
  others := same ▸ guards.others

theorem goes_of_registry_eq (same : c'.registry = c.registry) (frames : c'.frames = c.frames ++ new)
    (length : c'.host.caches.length = c.host.caches.length)
    (contents : c'.host.caches[k.number]? = c.host.caches[k.number]?.map change) :
    k.Goes new change c c' where
  guards := guards.of_registry_eq same
  length := length
  passes :=
    { next := Nat.le_of_eq (same ▸ rfl)
      older := fun _ _ there => by rwa [Client.Has, same] at there
      kept := fun _ _ _ there => by rwa [Client.Has, same]
      frames := frames
      contents := fun _ => contents }

theorem refl : k.Stays c c :=
  guards.goes_of_registry_eq rfl (List.append_nil _).symm rfl (Option.map_id_apply ..).symm

theorem withHost {link : Link} (length : link.caches.length = c.host.caches.length)
    (same : link.caches[k.number]? = c.host.caches[k.number]?) :
    k.Stays c { c with host := link } :=
  guards.goes_of_registry_eq rfl (List.append_nil _).symm length
    (same.trans (Option.map_id_apply ..).symm)

theorem withLink {link : Link} (same : link.caches = c.host.caches) :
    k.Stays c { c with host := link } :=
  guards.withHost (congrArg List.length same) (congrArg (·[k.number]?) same)

theorem goes_of_registered (numbered : c'.registry.Numbered)
    (next : c.registry.nextId ≤ c'.registry.nextId)
    (registered : ∀ channel, ∀ r ∈ c'.registry.on channel, r ∈ c.registry.on channel ∨
      c.registry.nextId ≤ r.id ∧ ∀ calls event, (r.listener calls event).Leaves k.number k.guarded)
    (kept : ∀ entry ∈ k.subscriptions, entry.1 ∈ k.guarded → c.Has entry → c'.Has entry)
    (frames : c'.frames = c.frames) (host : c'.host = c.host) : k.Stays c c' where
  guards :=
    { numbered := numbered
      given := fun entry own => Nat.lt_of_lt_of_le (guards.given entry own) next
      single := guards.single
      topical := guards.topical
      own := by
        intro channel r there own
        rcases registered channel r there with old | ⟨new, -⟩
        · exact guards.own channel r old own
        · exact absurd (guards.given _ own) (Nat.not_lt.mpr new)
      others := by
        intro channel r there other
        rcases registered channel r there with old | ⟨-, leaves⟩
        · exact guards.others channel r old other
        · exact leaves }
  length := host ▸ rfl
  passes :=
    { next := next
      older := by
        rintro ⟨channel, n⟩ old ⟨r, there, rfl⟩
        rcases registered channel r there with here | ⟨new, -⟩
        · exact ⟨r, here, rfl⟩
        · exact absurd old (Nat.not_lt.mpr new)
      kept := kept
      frames := frames.trans (List.append_nil _).symm
      contents := fun _ => by rw [host, Option.map_id_apply] }

theorem registers {listeners : List (Channel × Listener ClientRequest)}
    (registers : c.Registers listeners c')
    (leaves : ∀ entry ∈ listeners, ∀ calls event, (entry.2 calls event).Leaves k.number k.guarded) :
    k.Stays c c' := by
  refine guards.goes_of_registered (registers.numbered guards.numbered)
    (registers.next ▸ Nat.le_add_right ..) ?_ ?_
    (congrArg (List.filterMap Event.datum?) registers.emitted) registers.host
  · intro channel r there
    rcases registers.registered channel r there with old | ⟨j, number, listed⟩
    · exact .inl old
    · exact .inr ⟨by omega, leaves _ (List.mem_of_getElem? listed)⟩
  · rintro entry - - ⟨r, there, same⟩
    exact ⟨r, registers.kept _ r there, same⟩

theorem subscribe {channel : Channel} {listener : Listener ClientRequest}
    (leaves : ∀ calls event, (listener calls event).Leaves k.number k.guarded) (name : String) :
    k.Stays c (c.subscribe channel name listener).1 := by
  refine guards.goes_of_registered (guards.numbered.subscribe channel name listener)
    (Nat.le_succ _) ?_ ?_ rfl rfl
  · intro other r there
    rcases Registry.mem_on_of_subscribe there with old | ⟨rfl, rfl⟩
    · exact .inl old
    · exact .inr ⟨Nat.le_refl _, leaves⟩
  · rintro entry - - ⟨r, there, same⟩
    refine ⟨r, ?_, same⟩
    refine (Registry.on_subscribe channel entry.1 name listener).symm ▸ ?_
    split
    · exact List.mem_append_left _ there
    · exact there

theorem unsubscribe {channel : Channel} (spared : channel ∉ k.guarded) (target : Target) :
    k.Stays c (c.unsubscribe channel target).1 := by
  have distinct := guards.numbered.distinct
  have frames : Client.frames (c.unsubscribe channel target).1 = c.frames := by
    unfold Emitter.unsubscribe
    cases target with
    | all | id => rfl
    | named name => dsimp only; split <;> rfl
  have registry := Emitter.unsubscribe_registry c channel target
  refine guards.goes_of_registered ?_ ?_
    (fun other r there => .inl (Emitter.mem_on_of_unsubscribe distinct there)) ?_ frames
    (Emitter.unsubscribe_host c channel target)
  · rw [registry]
    cases c.meant? target with
    | none => exact guards.numbered
    | some id => exact guards.numbered.unsubscribe channel id
  · rw [registry]
    cases c.meant? target <;> exact Nat.le_refl _
  · rintro entry - kept ⟨r, there, same⟩
    refine ⟨r, ?_, same⟩
    rw [registry]
    cases c.meant? target with
    | none => exact there
    | some id =>
      have other : entry.1 ≠ channel := fun same => spared (same ▸ kept)
      rw [Option.elim_some, Registry.on_unsubscribe distinct, if_neg other]
      exact there

theorem clear (unguarded : k.guarded = []) : k.Stays c c.clear := by
  refine guards.goes_of_registered (.clear _) (Nat.le_refl _) (fun _ _ there => nomatch there) ?_
    rfl rfl
  intro entry _ kept
  rw [unguarded] at kept
  cases kept

theorem release {subscriptions : Subscriptions}
    (apart : k.guarded = [] ∨ ∀ entry ∈ subscriptions, entry ∉ k.subscriptions) :
    k.Stays c (c.release subscriptions) := by
  have distinct := guards.numbered.distinct
  have on := Client.on_release distinct subscriptions
  have frames : (c.release subscriptions).frames = c.frames := by
    clear apart on distinct guards
    induction subscriptions generalizing c with
    | nil => rfl
    | cons entry rest ih => exact ih
  refine guards.goes_of_registered ⟨Client.release_distinct distinct _, ?_, ?_⟩
    (Nat.le_of_eq (Client.release_nextId c _).symm)
    (fun channel r there => .inl (List.mem_of_mem_filter (on channel ▸ there))) ?_ frames
    (Client.release_host c _)
  · intro channel r there
    rw [Client.release_nextId]
    exact guards.numbered.given channel r (List.mem_of_mem_filter (on channel ▸ there))
  · intro channel
    rw [on]
    exact (guards.numbered.sorted channel).sublist (List.filter_sublist.map _)
  · rintro ⟨channel, n⟩ own kept ⟨r, there, rfl⟩
    rcases apart with unguarded | apart
    · rw [unguarded] at kept
      cases kept
    · refine ⟨r, ?_, rfl⟩
      rw [on]
      exact List.mem_filter.mpr ⟨there, decide_eq_true fun listed => apart _ listed own⟩

end Guards

/-! ## Deliveries -/

theorem upholds (k : Sink) (c : Client) : Emitter.Upholds Client.answer
    (·.Leaves k.number k.guarded) (fun event => event.datum? = none) (k.Stays c) where
  subscribe := fun stays leaves => ⟨stays.andStays (stays.guards.subscribe leaves.1 _), leaves.2⟩
  unsubscribe := fun stays leaves =>
    ⟨stays.andStays (stays.guards.unsubscribe leaves.1 _), leaves.2⟩
  emit := fun leaves => leaves.elim
  count := fun leaves => leaves
  clear := fun stays leaves => ⟨stays.andStays (stays.guards.clear leaves.1), leaves.2⟩
  ask := by
    intro c' request next stays leaves
    obtain ⟨length, same⟩ := Client.answer_caches leaves.1 c'.host
    have goesOn := stays.andStays (stays.guards.withHost length same)
    exact ⟨⟨goesOn, Client.answer_event request c'.host⟩, leaves.2⟩
  call := fun _ stays => stays.andStays (stays.guards.goes_of_registry_eq rfl
    (List.append_nil _).symm rfl (Option.map_id_apply ..).symm)
  event := by
    intro c' event stays none
    refine stays.andStays (stays.guards.goes_of_registry_eq rfl ?_ rfl ?_)
    · rw [Client.frames_withEvent, none]
      rfl
    · exact (Option.map_id_apply ..).symm
  listeners := by
    intro c' event stays none r there calls
    refine stays.guards.others _ r there (fun own => ?_) calls event
    obtain ⟨topic, same⟩ := stays.guards.topical _ own
    cases event with
    | data => cases none
    | _ => cases same

theorem invoke?_append {react : Reaction ClientRequest → Client → Option Client} {event : Event}
    {depth : Nat} (first rest : List (Registration (Listener ClientRequest))) (c : Client) :
    Emitter.invoke? react event depth (first ++ rest) c =
      (Emitter.invoke? react event depth first c).bind
        (Emitter.invoke? react event depth rest) := by
  induction first generalizing c with
  | nil => rfl
  | cons r first ih =>
    rw [List.cons_append, Emitter.invoke?, Emitter.invoke?, Option.bind_assoc]
    exact Option.bind_congr fun c' _ => ih c'

theorem after_append (k : Sink) (new new' : List Frame) :
    k.after (new ++ new') = k.after new' ∘ k.after new :=
  funext fun _ => List.foldl_append

namespace Guards

variable (guards : k.Guards c)
include guards

theorem eq_of_own {channel : Channel} {n m : Nat} (first : (channel, n) ∈ k.subscriptions)
    (second : (channel, m) ∈ k.subscriptions) : n = m :=
  congrArg Prod.snd (List.inj_on_of_nodup_map guards.single first second rfl)

theorem record {r : Registration (Listener ClientRequest)} {calls depth : Nat} {topic : Topic}
    {data : Json} {timestamp : Int} {deliver : Emitter.Delivery ClientRequest Link}
    (own : r.listener = TopicCache.listener k.number k.size)
    (reacted : Emitter.react? Client.answer deliver
      (r.listener calls (.data topic data timestamp))
      { c with calls := c.calls ++ [r.call (.data topic data timestamp) depth] } = some c') :
    k.Goes [] (fun contents => contents.record k.size topic ⟨data, timestamp⟩) c c' := by
  rw [own, TopicCache.listener, Binding.react?_ask deliver rfl] at reacted
  cases reacted
  exact guards.goes_of_registry_eq rfl (List.append_nil _).symm (List.length_modify ..)
    (List.getElem?_modify_eq ..)

theorem invoke? {event : Event} {limit depth : Nat}
    {listeners : List (Registration (Listener ClientRequest))}
    (leaves : ∀ r ∈ listeners, ∀ calls, (r.listener calls event).Leaves k.number k.guarded)
    (invoked : Emitter.invoke? (Emitter.react? Client.answer
      (Emitter.emitWithin? Client.answer limit (depth + 1))) event depth listeners c = some c') :
    k.Stays c c' :=
  (k.upholds c).invoke? ((k.upholds c).emitWithin? limit (depth + 1)) leaves invoked guards.refl

theorem emit?_data {limit called : Nat} {topic : Topic} {data : Json} {timestamp : Int}
    (delivered : c.emit? Client.answer limit (.data topic data timestamp) = some (c', called)) :
    k.Goes [⟨topic, data, timestamp⟩] (k.after [⟨topic, data, timestamp⟩]) c c' := by
  cases limit with
  | zero => cases delivered
  | succ limit =>
    let event := Event.data topic data timestamp
    obtain ⟨last, invoked, same⟩ := Option.map_eq_some_iff.mp delivered
    cases same
    have told : k.Goes [⟨topic, data, timestamp⟩] id c { c with emitted := c.emitted ++ [event] } :=
      guards.goes_of_registry_eq rfl (c.frames_withEvent event) rfl (Option.map_id_apply ..).symm
    have leaves : ∀ r ∈ c.registry.on (.topic topic), (.topic topic, r.id) ∉ k.subscriptions →
        ∀ calls, (r.listener calls event).Leaves k.number k.guarded :=
      fun r there other calls => guards.others _ r there other calls event
    by_cases heard : ∃ r ∈ c.registry.on (.topic topic), (.topic topic, r.id) ∈ k.subscriptions
    · obtain ⟨r, there, own⟩ := heard
      have listener := guards.own _ r there own
      have sorted := guards.numbered.sorted (.topic topic)
      obtain ⟨earlier, later, split⟩ := List.append_of_mem there
      -- a number is there once, so the listeners around the cache's are not the cache's
      rw [split, List.map_append, List.map_cons, List.pairwise_append, List.pairwise_cons] at sorted
      obtain ⟨-, ⟨above, -⟩, below⟩ := sorted
      have others : ∀ x ∈ earlier ++ later, (.topic topic, x.id) ∉ k.subscriptions := by
        intro x among mine
        have same := guards.eq_of_own mine own
        rcases List.mem_append.mp among with before | after
        · have less := below _ (List.mem_map_of_mem before) _ (List.mem_cons_self ..)
          omega
        · have less := above _ (List.mem_map_of_mem after)
          omega
      have listed : ∀ x ∈ earlier ++ later, x ∈ c.registry.on (.topic topic) := by
        intro x among
        rw [split]
        exact (List.mem_append.mp among).elim (List.mem_append_left _)
          fun after => List.mem_append_right _ (List.mem_cons_of_mem _ after)
      rw [show c.registry.on event.channel = earlier ++ r :: later from split, invoke?_append]
        at invoked
      obtain ⟨c₁, first, invoked⟩ := Option.bind_eq_some_iff.mp invoked
      obtain ⟨c₂, reacted, second⟩ := Option.bind_eq_some_iff.mp invoked
      have before := told.andStays (told.guards.invoke? (fun x among =>
        leaves x (listed x (List.mem_append_left _ among))
          (others x (List.mem_append_left _ among))) first)
      have recorded := before.trans (before.guards.record listener reacted)
      have all := recorded.andStays (recorded.guards.invoke? (fun x among =>
        leaves x (listed x (List.mem_append_right _ among))
          (others x (List.mem_append_right _ among))) second)
      have taken : k.after [⟨topic, data, timestamp⟩] =
          fun contents => contents.record k.size topic ⟨data, timestamp⟩ :=
        funext fun _ => if_pos (List.mem_map_of_mem (f := Prod.fst) own)
      rw [taken]
      exact all
    · have stays := told.andStays (told.guards.invoke? (fun r there =>
        leaves r there fun own => heard ⟨r, there, own⟩) invoked)
      refine ⟨stays.guards, stays.length, { stays.passes with contents := fun all => ?_ }⟩
      have other : .topic topic ∉ k.subscriptions.map Prod.fst := by
        intro listed
        obtain ⟨⟨channel, n⟩, own, rfl⟩ := List.mem_map.mp listed
        obtain ⟨r, there, rfl⟩ := stays.passes.hasAll guards.given all _ own
        exact heard ⟨r, there, own⟩
      have untaken : k.after [⟨topic, data, timestamp⟩] = id := funext fun _ => if_neg other
      rw [untaken]
      exact stays.passes.contents all

theorem emit? {limit called : Nat} {event : Event}
    (delivered : c.emit? Client.answer limit event = some (c', called)) :
    k.Goes event.datum?.toList (k.after event.datum?.toList) c c' := by
  cases event with
  | data => exact guards.emit?_data delivered
  | _ => exact (k.upholds c).emitWithin? limit 0 c _ c' called rfl delivered guards.refl

end Guards

/-! ## Deeds -/

def Hears (k : Sink) (c c' : Client) : Prop := ∃ new, k.Goes new (k.after new) c c'

namespace Hears

theorem of_stays (stays : k.Stays c c') : k.Hears c c' := ⟨[], stays⟩

theorem trans (first : k.Hears c c₁) (second : k.Hears c₁ c') : k.Hears c c' := by
  obtain ⟨new, goes⟩ := first
  obtain ⟨new', goes'⟩ := second
  exact ⟨new ++ new', k.after_append new new' ▸ goes.trans goes'⟩

theorem guards (hears : k.Hears c c') : k.Guards c' := hears.elim fun _ goes => goes.guards

end Hears

namespace Guards

variable (guards : k.Guards c)
include guards

theorem perform? {limit worker : Nat} {effect : Effect}
    (performed : Client.perform? limit worker c effect = some c') : k.Hears c c' := by
  have stays : k.Stays c { c with host := (c.host.perform worker effect).1 } :=
    guards.withLink (c.host.perform_records worker effect).caches
  rw [Client.perform?_eq] at performed
  cases told : (c.host.perform worker effect).2 with
  | none =>
    rw [told] at performed
    cases performed
    exact .of_stays stays
  | some event =>
    rw [told] at performed
    obtain ⟨⟨_, called⟩, delivered, same⟩ := Option.map_eq_some_iff.mp performed
    cases same
    exact (Hears.of_stays stays).trans ⟨_, stays.guards.emit? delivered⟩

theorem wake? {limit worker : Nat} {signal : Signal}
    (woken : Client.wake? limit worker c signal = some c') : k.Hears c c' := by
  rcases Client.wake?_effects woken with rfl | ⟨_, d, _, performed, rfl⟩
  · exact .of_stays guards.refl
  · have hears : k.Hears c d := foldlM_invariant (P := k.Hears c)
      (fun _ _ _ done hears => hears.trans (hears.guards.perform? done)) performed
      (.of_stays guards.refl)
    exact hears.trans (.of_stays (hears.guards.withLink rfl))

theorem send? {limit : Nat} {topic : Topic} {data : Json} {queued : Bool}
    (sent : c.send? limit topic data = some (c', queued)) : k.Stays c c' := by
  obtain ⟨⟨_, _⟩, asked, same⟩ := Option.map_eq_some_iff.mp sent
  cases same
  have leaves : (Reaction.ask (.send topic data) fun _ => .done).Leaves k.number k.guarded :=
    ⟨trivial, fun _ => trivial⟩
  exact Emitter.Upholds.askWith? ((k.upholds c).emitWithin? limit 0)
    ((k.upholds c).ask guards.refl leaves).1 asked

end Guards

end Sink

def SharedClient.Deed.Leaves (number : Nat) (guarded : List Channel) : SharedClient.Deed → Prop
  | .act (.subscribe _ _ listener) => ∀ calls event, (listener calls event).Leaves number guarded
  | .act (.unsubscribe channel _) => channel ∉ guarded
  | .act .clear => guarded = []
  | _ => True

theorem Sink.Guards.deed? {k : Sink} {limit : Nat} {u u' : SharedClient} {deed : SharedClient.Deed}
    (guards : k.Guards u.client) (leaves : deed.Leaves k.number k.guarded)
    (done : u.deed? limit deed = some u') : k.Hears u.client u'.client := by
  cases deed with
  | attach autoConnect =>
    cases done
    obtain ⟨made, registers, result⟩ := Binding.attach_registers u.client autoConnect
    let link : Link := { u.client.host with
      bindings := u.client.host.bindings ++ [⟨⟨u.client.isConnected, none⟩, 0⟩] }
    have bound : k.Stays u.client { u.client with host := link } := guards.withLink rfl
    have attached : k.Stays u.client made := bound.andStays (bound.guards.registers registers
      fun _ listed => Binding.leaves_of_mem_listeners listed _ _)
    refine .of_stays ?_
    dsimp only
    rcases result with same | same
    · rw [same]
      exact attached
    · rw [same]
      exact attached.andStays (attached.guards.withLink (Link.connect_records _).caches)
  | act action =>
    cases action with
    | connect =>
      cases done
      exact .of_stays (guards.withLink (Link.connect_records _).caches)
    | disconnect =>
      cases done
      exact .of_stays (guards.withLink (Link.beginDisconnect_records _).caches)
    | finishDisconnect worker =>
      cases done
      split
      · exact .of_stays (guards.withLink rfl)
      · exact .of_stays guards.refl
    | send topic data =>
      obtain ⟨⟨c, queued⟩, sent, same⟩ := Option.map_eq_some_iff.mp done
      cases same
      exact .of_stays (guards.send? sent)
    | subscribe channel name listener =>
      cases done
      exact .of_stays (guards.subscribe leaves name)
    | unsubscribe channel target =>
      cases done
      exact .of_stays (guards.unsubscribe leaves target)
    | clear =>
      cases done
      exact .of_stays (guards.clear leaves)
    | wait now =>
      cases done
      exact .of_stays (guards.withLink rfl)
    | wake worker signal =>
      obtain ⟨c, woken, same⟩ := Option.map_eq_some_iff.mp done
      cases same
      exact guards.wake? woken
    | writeNext worker =>
      obtain ⟨c, written, same⟩ := Option.map_eq_some_iff.mp done
      cases same
      rcases Client.writeNext?_wake written with rfl | ⟨workers, frame, -, woken⟩
      · exact .of_stays guards.refl
      · let c₁ : Client := { u.client with host := { u.client.host with workers } }
        have stays : k.Stays u.client c₁ := guards.withLink rfl
        exact (Hears.of_stays stays).trans (stays.guards.wake? woken)

end ControlPanel
