import ControlPanel.Proofs.Realtime.Contents
import ControlPanel.Proofs.Realtime.Mute
import ControlPanel.Proofs.Realtime.Sinks

/-!
# Several caches of a client

A `Shelf` is a client with the caches that are attached to it. All that happens to it is one turn
after another, and a turn passes on to a cache what is delivered on its topics, unless it clears the
cache (`Shelf.Tidy.turn?`).
-/

namespace ControlPanel

/-! ## Attaching -/

namespace TopicCache

def hosted (c : Client) : Client :=
  { c with host.caches := c.host.caches ++ [.empty] }

def listeners (topics : List Topic) (id size : Nat) : List (Channel × Listener ClientRequest) :=
  (distinct topics).map fun topic => (.topic topic, listener id size)

theorem listeners_channels (topics : List Topic) (id size : Nat) :
    (listeners topics id size).map Prod.fst = (distinct topics).map .topic := by
  rw [listeners, List.map_map]
  rfl

theorem attach_eq (c : Client) (topics : List Topic) (size : Nat) :
    let made := (hosted c).subscribeAll (listeners topics c.host.caches.length size)
    attach c topics size = (made.1, ⟨c.host.caches.length, distinct topics, made.2⟩) := rfl

end TopicCache

namespace Sink

theorem nodup_channels (topics : List Topic) :
    ((TopicCache.distinct topics).map Channel.topic).Nodup :=
  (TopicCache.nodup_distinct topics).map fun _ _ same => by cases same; rfl

theorem Guards.attach {number size : Nat} {guarded : List Channel} {c : Client}
    (guards : Guards ⟨number, size, [], guarded⟩ c) (topics : List Topic) :
    let made := c.subscribeAll (TopicCache.listeners topics number size)
    Guards ⟨number, size, made.2, guarded⟩ made.1 ∧ made.1.HasAll made.2 := by
  intro made
  have registers := c.registers_subscribeAll (TopicCache.listeners topics number size)
  have channels : made.2.map Prod.fst = (TopicCache.distinct topics).map Channel.topic := by
    rw [Client.subscribeAll_channels, TopicCache.listeners_channels]
  refine ⟨?_, fun entry own => ?_⟩
  · exact
      { numbered := registers.numbered guards.numbered
        given := by
          intro entry own
          obtain ⟨k, listener, listed, same⟩ := Client.mem_subscribeAll.mp own
          have bound := (List.getElem?_eq_some_iff.mp listed).1
          rw [registers.next, same]
          exact Nat.add_lt_add_left bound _
        single := channels ▸ nodup_channels topics
        topical := by
          intro entry own
          have listed := List.mem_map_of_mem (f := Prod.fst) own
          rw [channels] at listed
          obtain ⟨topic, -, same⟩ := List.mem_map.mp listed
          exact ⟨topic, same.symm⟩
        own := by
          intro channel r there own
          rcases registers.registered channel r there with old | ⟨k, -, listed⟩
          · obtain ⟨k, -, -, same⟩ := Client.mem_subscribeAll.mp own
            have less := guards.numbered.given channel r old
            have same : r.id = c.registry.nextId + k := same
            omega
          · obtain ⟨topic, -, same⟩ := List.mem_map.mp (List.mem_of_getElem? listed)
            exact (congrArg Prod.snd same).symm
        others := by
          intro channel r there other
          rcases registers.registered channel r there with old | ⟨k, same, listed⟩
          · exact guards.others channel r old List.not_mem_nil
          · exact absurd (Client.mem_subscribeAll.mpr ⟨k, _, listed, same⟩) other }
  · obtain ⟨k, listener, listed, same⟩ := Client.mem_subscribeAll.mp own
    exact ⟨_, registers.made k _ _ listed, same.symm⟩

end Sink

/-! ## Several caches -/

structure Shelf where
  shared : SharedClient
  caches : List TopicCache

namespace Shelf

inductive Turn where
  | act (deed : SharedClient.Deed)
  | attach (topics : List Topic) (size : Nat)
  | clear (number : Nat)
  | drop (number : Nat)

def start (settings : RealtimeSettings) (clock : Int) : Shelf := ⟨.start settings clock, []⟩

abbrev client (s : Shelf) : Client := s.shared.client

def attach (s : Shelf) (topics : List Topic) (size : Nat) : Shelf :=
  let (client, cache) := TopicCache.attach s.client topics size
  ⟨{ s.shared with client }, s.caches ++ [cache]⟩

def onCache (s : Shelf) (number : Nat) (f : TopicCache → Client → Client) : Shelf :=
  match s.caches[number]? with
  | some cache => { s with shared.client := f cache s.client }
  | none => s

def turn? (limit : Nat) (s : Shelf) : Turn → Option Shelf
  | .act deed => (s.shared.deed? limit deed).map fun shared => { s with shared }
  | .attach topics size => some (s.attach topics size)
  | .clear number => some (s.onCache number TopicCache.clear)
  | .drop number => some (s.onCache number TopicCache.detach)

def runTurns? (limit : Nat) (s : Shelf) (turns : List Turn) : Option Shelf :=
  turns.foldlM (turn? limit) s

def attached (turns : List Turn) : List (List Topic × Nat) :=
  turns.filterMap fun turn => match turn with
    | .attach topics size => some (topics, size)
    | _ => none

def Turn.Leaves (number : Nat) (guarded : List Channel) : Turn → Prop
  | .act deed => deed.Leaves number guarded
  | .drop other => guarded = [] ∨ other ≠ number
  | _ => True

/-! ### What attaching does -/

theorem getElem?_concat_ne {α : Type} {l : List α} {a : α} {n : Nat} (other : l.length ≠ n) :
    (l ++ [a])[n]? = l[n]? := by
  rcases Nat.lt_or_gt_of_ne other with past | before
  · have beyond : (l ++ [a]).length ≤ n := by
      rw [List.length_append, List.length_singleton]
      exact past
    rw [List.getElem?_eq_none (Nat.le_of_lt past), List.getElem?_eq_none beyond]
  · exact List.getElem?_append_left before

section
variable (s : Shelf) (topics : List Topic) (size : Nat)

theorem attach_caches : (s.attach topics size).caches =
    s.caches ++ [(TopicCache.attach s.client topics size).2] := rfl

theorem attach_client :
    (s.attach topics size).client = (TopicCache.attach s.client topics size).1 := rfl

theorem attach_registers : (TopicCache.hosted s.client).Registers
    (TopicCache.listeners topics s.client.host.caches.length size)
    (s.attach topics size).client := Client.registers_subscribeAll ..

theorem attach_hostCaches : (s.attach topics size).client.host.caches =
    s.client.host.caches ++ [.empty] := congrArg Link.caches (s.attach_registers topics size).host

theorem attach_given : ∀ entry ∈ (TopicCache.attach s.client topics size).2.subscriptions,
    s.client.registry.nextId ≤ entry.2 ∧
      entry.2 < (s.attach topics size).client.registry.nextId := by
  intro entry own
  obtain ⟨k, listener, listed, same⟩ := Client.mem_subscribeAll.mp own
  have bound := (List.getElem?_eq_some_iff.mp listed).1
  rw [(s.attach_registers topics size).next, same]
  exact ⟨Nat.le_add_right .., Nat.add_lt_add_left bound _⟩

end

/-! ### The sink of a cache -/

def sink (s : Shelf) (number size : Nat) (guarded : List Channel) : Sink :=
  ⟨number, size, ((s.caches[number]?).map TopicCache.subscriptions).getD [], guarded⟩

theorem sink_of_some {s : Shelf} {number : Nat} {cache : TopicCache}
    (here : s.caches[number]? = some cache) (size : Nat) (guarded : List Channel) :
    s.sink number size guarded = ⟨number, size, cache.subscriptions, guarded⟩ := by
  rw [sink, here]
  rfl

theorem sink_of_none {s : Shelf} {number : Nat} (absent : s.caches[number]? = none) (size : Nat)
    (guarded : List Channel) : s.sink number size guarded = ⟨number, size, [], guarded⟩ := by
  rw [sink, absent]
  rfl

theorem sink_congr {s s' : Shelf} {number : Nat} (same : s'.caches[number]? = s.caches[number]?)
    (size : Nat) (guarded : List Channel) :
    s'.sink number size guarded = s.sink number size guarded := by
  rw [sink, same, sink]

/-- What holds of a shelf with respect to the cache with some number, if it is of some topics and
has some limit. -/
structure Tidy (number : Nat) (topics : List Topic) (size : Nat) (guarded : List Channel)
    (s : Shelf) : Prop where
  guards : (s.sink number size guarded).Guards s.client
  length : s.client.host.caches.length = s.caches.length
  numbers : s.caches.map TopicCache.id = List.range s.caches.length
  given : ∀ cache ∈ s.caches, ∀ entry ∈ cache.subscriptions,
    entry.2 < s.client.registry.nextId
  apart : ∀ cache ∈ s.caches, cache.id ≠ number → ∀ entry ∈ cache.subscriptions,
    entry ∉ (s.sink number size guarded).subscriptions
  labelled : ∀ cache : TopicCache, s.caches[number]? = some cache →
    cache.topics = TopicCache.distinct topics ∧
      cache.subscriptions.map Prod.fst = (TopicCache.distinct topics).map .topic
  alive : (∀ topic ∈ topics, .topic topic ∈ guarded) →
    s.client.HasAll (s.sink number size guarded).subscriptions

namespace Tidy

variable {number size limit : Nat} {topics : List Topic} {guarded : List Channel} {s s' : Shelf}

theorem start (number : Nat) (topics : List Topic) (size : Nat) (guarded : List Channel)
    (settings : RealtimeSettings) (clock : Int) :
    (Shelf.start settings clock).Tidy number topics size guarded where
  guards :=
    { numbered := Registry.numbered_empty
      given := fun _ none => nomatch none
      single := List.nodup_nil
      topical := fun _ none => nomatch none
      own := fun _ _ none => nomatch none
      others := fun _ _ none => nomatch none }
  length := rfl
  numbers := rfl
  given := fun _ none => nomatch none
  apart := fun _ none => nomatch none
  labelled := fun _ none => nomatch none
  alive := fun _ _ none => nomatch none

section
variable (tidy : s.Tidy number topics size guarded)
include tidy

theorem channels_guarded (covers : ∀ topic ∈ topics, .topic topic ∈ guarded) :
    ∀ entry ∈ (s.sink number size guarded).subscriptions, entry.1 ∈ guarded := by
  intro entry own
  cases here : s.caches[number]? with
  | none =>
    rw [sink_of_none here] at own
    cases own
  | some cache =>
    rw [sink_of_some here] at own
    have listed := List.mem_map_of_mem (f := Prod.fst) own
    rw [(tidy.labelled cache here).2] at listed
    obtain ⟨topic, there, same⟩ := List.mem_map.mp listed
    exact same ▸ covers topic (((TopicCache.lists_distinct topics).mem topic).mp there)

theorem goes {new : List Frame} {change : CacheContents → CacheContents}
    (same : s'.caches = s.caches)
    (goes : (s.sink number size guarded).Goes new change s.client s'.client) :
    s'.Tidy number topics size guarded := by
  have sinks : s'.sink number size guarded = s.sink number size guarded :=
    sink_congr (congrArg (·[number]?) same) size guarded
  refine ⟨sinks ▸ goes.guards, ?_, same ▸ tidy.numbers, ?_, ?_, same ▸ tidy.labelled, ?_⟩
  · rw [same, goes.length]
    exact tidy.length
  · rw [same]
    exact fun cache there entry own =>
      Nat.lt_of_lt_of_le (tidy.given cache there entry own) goes.passes.next
  · rw [same, sinks]
    exact tidy.apart
  · rw [sinks]
    exact fun covers entry own => goes.passes.kept entry own
      (tidy.channels_guarded covers entry own) (tidy.alive covers entry own)

theorem id_eq {n : Nat} {cache : TopicCache} (here : s.caches[n]? = some cache) :
    cache.id = n := by
  have listed := congrArg (·[n]?) tidy.numbers
  have bound := (List.getElem?_eq_some_iff.mp here).1
  rw [List.getElem?_map, here, List.getElem?_range bound] at listed
  exact Option.some.inj listed

theorem attach_numbers (topics' : List Topic) (size' : Nat) :
    (s.attach topics' size').caches.map TopicCache.id =
      List.range (s.attach topics' size').caches.length := by
  rw [attach_caches, List.map_append, List.length_append, List.length_singleton, List.range_succ,
    tidy.numbers, List.map_singleton, TopicCache.attach_eq, tidy.length]

theorem attach_length (topics' : List Topic) (size' : Nat) :
    (s.attach topics' size').client.host.caches.length =
      (s.attach topics' size').caches.length := by
  rw [attach_hostCaches, attach_caches, List.length_append, List.length_append, tidy.length]
  rfl

theorem given_attach (topics' : List Topic) (size' : Nat) :
    ∀ cache ∈ (s.attach topics' size').caches, ∀ entry ∈ cache.subscriptions,
      entry.2 < (s.attach topics' size').client.registry.nextId := by
  intro cache there entry own
  rcases List.mem_append.mp there with old | new
  · rw [(s.attach_registers topics' size').next]
    exact Nat.lt_of_lt_of_le (tidy.given cache old entry own) (Nat.le_add_right ..)
  · rw [List.mem_singleton.mp new] at own
    exact (s.attach_given topics' size' entry own).2

theorem attach_other (other : s.caches.length ≠ number) (topics' : List Topic) (size' : Nat) :
    (s.attach topics' size').Tidy number topics size guarded ∧
      (s.attach topics' size').caches[number]? = s.caches[number]? ∧
        (s.sink number size guarded).Passes [] id s.client (s.attach topics' size').client := by
  have apart : s.client.host.caches.length ≠ number := tidy.length ▸ other
  have same : (s.attach topics' size').caches[number]? = s.caches[number]? :=
    getElem?_concat_ne other
  have sinks := sink_congr same size guarded
  have hosted : (s.sink number size guarded).Guards (TopicCache.hosted s.client) :=
    tidy.guards.of_registry_eq rfl
  have goes := hosted.registers (s.attach_registers topics' size') (by
    intro entry listed calls event
    obtain ⟨topic, -, rfl⟩ := List.mem_map.mp listed
    exact TopicCache.leaves_listener apart size' guarded calls event)
  -- no `Goes`: the client has one cache more
  have passes : (s.sink number size guarded).Passes [] id s.client (TopicCache.hosted s.client) :=
    { next := Nat.le_refl _
      older := fun _ _ there => there
      kept := fun _ _ _ there => there
      frames := (List.append_nil _).symm
      contents := fun _ => (getElem?_concat_ne apart).trans (Option.map_id_apply ..).symm }
  have passes := passes.trans goes.passes tidy.guards.given
  refine ⟨⟨sinks ▸ goes.guards, tidy.attach_length .., tidy.attach_numbers ..,
    tidy.given_attach topics' size', ?_, same ▸ tidy.labelled, ?_⟩, same, passes⟩
  · rw [sinks]
    intro cache there elsewhere entry listed own
    rcases List.mem_append.mp there with old | new
    · exact tidy.apart cache old elsewhere entry listed own
    · rw [List.mem_singleton.mp new] at listed
      exact Nat.not_lt.mpr (s.attach_given topics' size' entry listed).1 (tidy.guards.given _ own)
  · rw [sinks]
    exact fun covers entry own => passes.kept entry own
      (tidy.channels_guarded covers entry own) (tidy.alive covers entry own)

theorem attach_own (own : s.caches.length = number) :
    (s.attach topics size).Tidy number topics size guarded ∧
      (s.attach topics size).client.host.caches[number]? = some .empty := by
  have here : (s.attach topics size).caches[number]? =
      some (TopicCache.attach s.client topics size).2 := own ▸ List.getElem?_concat_length
  have sinks := sink_of_some here size guarded
  -- until it comes, the sink of the cache has no registrations
  have unguarded := tidy.guards
  rw [sink_of_none (List.getElem?_eq_none (Nat.le_of_eq own))] at unguarded
  have hosted : Sink.Guards ⟨number, size, [], guarded⟩ (TopicCache.hosted s.client) :=
    unguarded.of_registry_eq rfl
  obtain ⟨guards, all⟩ := hosted.attach topics
  let made := (TopicCache.hosted s.client).subscribeAll (TopicCache.listeners topics number size)
  have attached : TopicCache.attach s.client topics size =
      (made.1, ⟨number, TopicCache.distinct topics, made.2⟩) := by
    rw [TopicCache.attach_eq, tidy.length.trans own]
  have client : (s.attach topics size).client = made.1 := by rw [attach_client, attached]
  have subscriptions : (TopicCache.attach s.client topics size).2.subscriptions = made.2 := by
    rw [attached]
  refine ⟨⟨?_, tidy.attach_length .., tidy.attach_numbers .., tidy.given_attach topics size, ?_, ?_,
    ?_⟩, ?_⟩
  · rw [sinks, client, subscriptions]
    exact guards
  · rw [sinks]
    intro cache there elsewhere entry listed mine
    rcases List.mem_append.mp there with old | new
    · exact Nat.not_lt.mpr (s.attach_given topics size entry mine).1
        (tidy.given cache old entry listed)
    · rw [List.mem_singleton.mp new] at elsewhere
      exact elsewhere (tidy.length.trans own)
  · intro cache there
    cases here.symm.trans there
    exact ⟨rfl, (Client.subscribeAll_channels ..).trans (TopicCache.listeners_channels ..)⟩
  · rw [sinks, client, subscriptions]
    exact fun _ => all
  · rw [attach_hostCaches, ← tidy.length.trans own]
    exact List.getElem?_concat_length

theorem withCaches (same : s'.caches = s.caches) (registry : s'.client.registry = s.client.registry)
    (length : s'.client.host.caches.length = s.client.host.caches.length) :
    s'.Tidy number topics size guarded := by
  have sinks : s'.sink number size guarded = s.sink number size guarded :=
    sink_congr (congrArg (·[number]?) same) size guarded
  refine ⟨sinks ▸ tidy.guards.of_registry_eq registry, ?_, same ▸ tidy.numbers, ?_, ?_,
    same ▸ tidy.labelled, ?_⟩
  · rw [length, same, tidy.length]
  · rw [same, registry]
    exact tidy.given
  · rw [same, sinks]
    exact tidy.apart
  · rw [sinks]
    intro covers entry own
    rw [Client.Has, registry]
    exact tidy.alive covers entry own

theorem clear (n : Nat) : (s.onCache n TopicCache.clear).Tidy number topics size guarded ∧
    (s.onCache n TopicCache.clear).caches = s.caches ∧
      (n ≠ number → (s.sink number size guarded).Passes [] id s.client
        (s.onCache n TopicCache.clear).client) ∧
      (n = number → number < s.caches.length →
        (s.onCache n TopicCache.clear).client.host.caches[number]? = some .empty) := by
  unfold onCache
  split
  · rename_i cache here
    have number_eq := tidy.id_eq here
    refine ⟨tidy.withCaches rfl rfl List.length_set, rfl, fun other => ?_, fun own within => ?_⟩
    · have apart : cache.id ≠ number := number_eq ▸ other
      exact (tidy.guards.withHost List.length_set (List.getElem?_set_ne apart)).passes
    · have same : cache.id = number := number_eq.trans own
      change (s.client.host.caches.set cache.id .empty)[number]? = _
      rw [same, List.getElem?_set_self (tidy.length ▸ within)]
  · rename_i absent
    refine ⟨tidy, rfl, fun _ => tidy.guards.refl.passes, fun own within => ?_⟩
    subst own
    exact absurd within (Nat.not_lt.mpr (List.getElem?_eq_none_iff.mp absent))

theorem drop {n : Nat} (spared : guarded = [] ∨ n ≠ number) :
    (s.onCache n TopicCache.detach).Tidy number topics size guarded ∧
      (s.onCache n TopicCache.detach).caches = s.caches ∧
      (s.sink number size guarded).Passes [] id s.client
        (s.onCache n TopicCache.detach).client := by
  unfold onCache
  split
  · rename_i cache here
    have stays : (s.sink number size guarded).Stays s.client (cache.detach s.client) :=
      tidy.guards.release (spared.imp id fun other => tidy.apart cache (List.mem_of_getElem? here)
        (tidy.id_eq here ▸ other))
    exact ⟨tidy.goes rfl stays, rfl, stays.passes⟩
  · exact ⟨tidy, rfl, tidy.guards.refl.passes⟩

/-- Every turn keeps a shelf tidy, and after the cache is attached all but those that clear it pass
on to it what they deliver. -/
theorem turn? {turn : Turn} (leaves : turn.Leaves number guarded)
    (fits : s.caches.length = number → ∀ topics' size', turn = .attach topics' size' →
      topics' = topics ∧ size' = size)
    (done : s.turn? limit turn = some s') :
    s'.Tidy number topics size guarded ∧
      (number < s.caches.length → turn ≠ .clear number →
        s'.caches[number]? = s.caches[number]? ∧
          ∃ new, (s.sink number size guarded).Passes new
            ((s.sink number size guarded).after new) s.client s'.client) := by
  cases turn with
  | act deed =>
    obtain ⟨shared, acted, same⟩ := Option.map_eq_some_iff.mp done
    cases same
    obtain ⟨new, goes⟩ := tidy.guards.deed? leaves acted
    exact ⟨tidy.goes rfl goes, fun _ _ => ⟨rfl, new, goes.passes⟩⟩
  | attach topics' size' =>
    cases done
    by_cases own : s.caches.length = number
    · obtain ⟨rfl, rfl⟩ := fits own topics' size' rfl
      exact ⟨(tidy.attach_own own).1, fun within => absurd own (Nat.ne_of_gt within)⟩
    · obtain ⟨still, same, passes⟩ := tidy.attach_other own topics' size'
      exact ⟨still, fun _ _ => ⟨same, [], passes⟩⟩
  | clear n =>
    cases done
    obtain ⟨still, same, passes, -⟩ := tidy.clear n
    exact ⟨still, fun _ other => ⟨congrArg (·[number]?) same, [],
      passes fun same => other (congrArg Turn.clear same)⟩⟩
  | drop n =>
    cases done
    obtain ⟨still, same, passes⟩ := tidy.drop leaves
    exact ⟨still, fun _ _ => ⟨congrArg (·[number]?) same, [], passes⟩⟩

end

end Tidy

/-! ### Runs -/

theorem runTurns?_cons_iff {limit : Nat} {s s' : Shelf} {turn : Turn} {turns : List Turn} :
    s.runTurns? limit (turn :: turns) = some s' ↔
      ∃ next, s.turn? limit turn = some next ∧ next.runTurns? limit turns = some s' := by
  rw [runTurns?, List.foldlM_cons]
  exact Option.bind_eq_some_iff

theorem runTurns?_append_iff {limit : Nat} {s s' : Shelf} {turns turns' : List Turn} :
    s.runTurns? limit (turns ++ turns') = some s' ↔
      ∃ middle, s.runTurns? limit turns = some middle ∧
        middle.runTurns? limit turns' = some s' := by
  rw [runTurns?, List.foldlM_append]
  exact Option.bind_eq_some_iff

theorem runTurns?_singleton {limit : Nat} {s : Shelf} (turn : Turn) :
    s.runTurns? limit [turn] = s.turn? limit turn := by
  rw [runTurns?, List.foldlM_cons]
  exact bind_pure _

theorem attached_append (turns turns' : List Turn) :
    attached (turns ++ turns') = attached turns ++ attached turns' := List.filterMap_append

theorem onCache_caches (s : Shelf) (n : Nat) (f : TopicCache → Client → Client) :
    (s.onCache n f).caches = s.caches := by
  unfold onCache
  split <;> rfl

theorem turn?_length {limit : Nat} {s s' : Shelf} {turn : Turn}
    (done : s.turn? limit turn = some s') :
    s'.caches.length = s.caches.length + (attached [turn]).length := by
  cases turn with
  | act deed =>
    obtain ⟨shared, acted, same⟩ := Option.map_eq_some_iff.mp done
    cases same
    rfl
  | attach topics size =>
    cases done
    exact List.length_append
  | clear n | drop n =>
    cases done
    exact congrArg List.length (s.onCache_caches n _)

namespace Tidy

variable {number size limit : Nat} {topics : List Topic} {guarded : List Channel} {s s' : Shelf}

theorem run (before : List Turn) {turns : List Turn} (tidy : s.Tidy number topics size guarded)
    (count : s.caches.length = (attached before).length)
    (fits : ∀ spec ∈ (attached (before ++ turns))[number]?, spec = (topics, size))
    (leaves : ∀ turn ∈ turns, turn.Leaves number guarded)
    (ran : s.runTurns? limit turns = some s') :
    s'.Tidy number topics size guarded ∧
      s'.caches.length = (attached (before ++ turns)).length := by
  induction turns generalizing s before with
  | nil =>
    cases ran
    rw [List.append_nil]
    exact ⟨tidy, count⟩
  | cons turn turns ih =>
    obtain ⟨next, done, rest⟩ := runTurns?_cons_iff.mp ran
    obtain ⟨first, later⟩ := List.forall_mem_cons.mp leaves
    have own : s.caches.length = number → ∀ topics' size', turn = .attach topics' size' →
        topics' = topics ∧ size' = size := by
      rintro rfl topics' size' rfl
      rw [attached_append, count, List.getElem?_append_right (Nat.le_refl _), Nat.sub_self] at fits
      exact Prod.mk.inj (fits (topics', size') rfl)
    have still := (tidy.turn? first own done).1
    rw [List.append_cons] at fits ⊢
    refine ih _ still ?_ fits later rest
    rw [turn?_length done, count, attached_append, List.length_append]

/-- From when the cache was attached or cleared it takes what is delivered until it is cleared. -/
theorem passes {cache : TopicCache} {turns : List Turn}
    (tidy : s.Tidy number topics size guarded) (here : s.caches[number]? = some cache)
    (leaves : ∀ turn ∈ turns, turn.Leaves number guarded) (uncleared : .clear number ∉ turns)
    (ran : s.runTurns? limit turns = some s') :
    s'.Tidy number topics size guarded ∧ s'.caches[number]? = some cache ∧
      ∃ new, (s.sink number size guarded).Passes new ((s.sink number size guarded).after new)
        s.client s'.client := by
  induction turns generalizing s with
  | nil =>
    cases ran
    exact ⟨tidy, here, [], tidy.guards.refl.passes⟩
  | cons turn turns ih =>
    obtain ⟨next, done, rest⟩ := runTurns?_cons_iff.mp ran
    obtain ⟨first, later⟩ := List.forall_mem_cons.mp leaves
    have within := (List.getElem?_eq_some_iff.mp here).1
    obtain ⟨still, passes⟩ := tidy.turn? first (fun own => absurd own (Nat.ne_of_gt within)) done
    obtain ⟨same, new, passed⟩ := passes within fun clears =>
      uncleared (clears ▸ List.mem_cons_self ..)
    obtain ⟨last, there, new', passed'⟩ := ih still (same.trans here) later
      (fun cleared => uncleared (List.mem_cons_of_mem _ cleared)) rest
    have sinks := sink_congr same size guarded
    refine ⟨last, there, new ++ new', ?_⟩
    rw [Sink.after_append]
    rw [sinks] at passed'
    exact passed.trans passed' (sinks ▸ still.guards.given)

end Tidy

section
variable {number size limit : Nat} {topics : List Topic} {guarded : List Channel}
  {turns : List Turn} {s : Shelf} (settings : RealtimeSettings) (clock : Int)

theorem tidy_of_run (fits : ∀ spec ∈ (attached turns)[number]?, spec = (topics, size))
    (leaves : ∀ turn ∈ turns, turn.Leaves number guarded)
    (ran : (start settings clock).runTurns? limit turns = some s) :
    s.Tidy number topics size guarded ∧ s.caches.length = (attached turns).length :=
  (Tidy.start number topics size guarded settings clock).run [] rfl fits leaves ran

theorem exists_of_run (listed : (attached turns)[number]? = some (topics, size))
    (leaves : ∀ turn ∈ turns, turn.Leaves number guarded)
    (ran : (start settings clock).runTurns? limit turns = some s) :
    s.Tidy number topics size guarded ∧ ∃ cache, s.caches[number]? = some cache := by
  obtain ⟨tidy, count⟩ := tidy_of_run settings clock
    (fun spec same => Option.some.inj (same.symm.trans listed)) leaves ran
  have within := (List.getElem?_eq_some_iff.mp listed).1
  rw [← count] at within
  exact ⟨tidy, _, List.getElem?_eq_getElem within⟩

end

/-! ### Results -/

def Turn.IsMute : Turn → Prop
  | .act deed => deed.IsMute
  | _ => True

theorem turn?_returns {limit : Nat} {s : Shelf} {turn : Turn} (mute : s.client.Mute)
    (positive : 0 < limit) (isMute : turn.IsMute) :
    ∃ s', s.turn? limit turn = some s' ∧ s'.client.Mute := by
  cases turn with
  | act deed =>
    obtain ⟨shared, acted, still⟩ := SharedClient.deed?_returns mute positive isMute
    exact ⟨_, Option.map_eq_some_iff.mpr ⟨shared, acted, rfl⟩, still⟩
  | attach topics size =>
    have hosted : (TopicCache.hosted s.client).Mute := mute.withHost _
    refine ⟨_, rfl, hosted.subscribeAll fun entry listed calls event => ?_⟩
    obtain ⟨topic, -, rfl⟩ := List.mem_map.mp listed
    cases event with
    | data => exact Client.descends_ask fun _ => rfl
    | _ => trivial
  | clear n =>
    refine ⟨_, rfl, ?_⟩
    unfold onCache
    split
    · exact mute.withHost _
    · exact mute
  | drop n =>
    refine ⟨_, rfl, ?_⟩
    unfold onCache
    split
    · exact mute.release _
    · exact mute

theorem runTurns?_returns {limit : Nat} {s : Shelf} {turns : List Turn} (mute : s.client.Mute)
    (positive : 0 < limit) (isMute : ∀ turn ∈ turns, turn.IsMute) :
    ∃ s', s.runTurns? limit turns = some s' := by
  obtain ⟨s', ran, -⟩ := foldlM_returns (P := fun s : Shelf => s.client.Mute)
    (fun _ turn listed mute => turn?_returns mute positive (isMute turn listed)) mute
  exact ⟨s', ran⟩

end Shelf

end ControlPanel
