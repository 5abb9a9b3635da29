import ControlPanel.Proofs.Realtime.Shelves

/-!
# Caches

A cache that is alive holds the last payload of each of its topics since it was cleared, and as many
before it as its limit says, whatever happens to other caches of the client
(`Shelf.runTurns?_caches`).
-/

namespace ControlPanel

theorem Sink.after_shows {k : Sink} {topics : List Topic}
    (channels : ∀ topic, .topic topic ∈ k.subscriptions.map Prod.fst ↔ topic ∈ topics)
    {past : List Frame} {contents : CacheContents} (shown : contents.Shows topics k.size past)
    (new : List Frame) : (k.after new contents).Shows topics k.size (past ++ new) := by
  induction new generalizing past contents with
  | nil => rwa [List.append_nil]
  | cons f new ih =>
    have next : (k.take contents f).Shows topics k.size (past ++ [f]) := by
      unfold take
      split
      · rename_i heard
        exact shown.record ((channels _).mp heard)
      · rename_i unheard
        exact shown.skip fun listed => unheard ((channels _).mpr listed)
    have later := ih next
    rwa [List.append_assoc] at later

def TopicCache.IsAlive (cache : TopicCache) (c : Client) : Prop := c.HasAll cache.subscriptions

namespace Shelf

variable {limit number size : Nat} {topics : List Topic}

theorem Tidy.begins {guarded : List Channel} {before : List Turn} {turn : Turn} {u v : Shelf}
    (tidy : u.Tidy number topics size guarded) (count : u.caches.length = (attached before).length)
    (listed : (attached (before ++ [turn]))[number]? = some (topics, size))
    (begins : (attached before).length = number ∨ turn = .clear number)
    (done : u.turn? limit turn = some v) :
    v.client.host.caches[number]? = some .empty := by
  rw [attached_append] at listed
  cases turn with
  | attach topics' size' =>
    have own : (attached before).length = number := begins.resolve_right nofun
    rw [show attached [Turn.attach topics' size'] = [(topics', size')] from rfl, ← own,
      List.getElem?_concat_length] at listed
    cases listed
    cases done
    exact (tidy.attach_own (count.trans own)).2
  | clear n =>
    rw [show attached [Turn.clear n] = [] from rfl, List.append_nil] at listed
    have within := (List.getElem?_eq_some_iff.mp listed).1
    cases begins.resolve_left (Nat.ne_of_gt within)
    cases done
    exact (tidy.clear number).2.2.2 rfl (count ▸ within)
  | act | drop =>
    have absent : (attached before)[number]? = some (topics, size) := by
      rwa [show attached [_] = [] from rfl, List.append_nil] at listed
    have within := (List.getElem?_eq_some_iff.mp absent).1
    exact absurd begins (not_or.mpr ⟨Nat.ne_of_gt within, nofun⟩)

/-- A cache has the topics of its list, each once and in the order of their first occurrence. It is
alive as long as nobody drops it or removes the listeners on its topics. Then it holds, whatever
becomes of other caches, the last payload of each of its topics among the frames delivered since it
was attached or cleared last, its last payloads up to the limit, and nothing of other topics. -/
theorem runTurns?_caches (limit : Nat) (settings : RealtimeSettings) (clock : Int)
    {earlier later : List Turn} {turn : Turn}
    (listed : (attached (earlier ++ [turn]))[number]? = some (topics, size))
    (begins : (attached earlier).length = number ∨ turn = .clear number)
    (uncleared : .clear number ∉ later)
    (leaves : ∀ t ∈ earlier ++ [turn] ++ later, t.Leaves number []) :
    (0 < limit → (∀ t ∈ earlier ++ [turn] ++ later, t.IsMute) →
      ∃ w, (start settings clock).runTurns? limit (earlier ++ [turn] ++ later) = some w) ∧
    ∀ v w, (start settings clock).runTurns? limit (earlier ++ [turn]) = some v →
      v.runTurns? limit later = some w →
      v.client.frames <+: w.client.frames ∧ ∃ cache, w.caches[number]? = some cache ∧
        (∀ topic, topic ∈ cache.topics ↔ topic ∈ topics) ∧
        cache.topics.Pairwise (fun a b => topics.idxOf a < topics.idxOf b) ∧
        ((∀ t ∈ earlier ++ [turn] ++ later, t.Leaves number (topics.map .topic)) →
          cache.IsAlive w.client) ∧
        (cache.IsAlive w.client → ∀ topic,
          let payloads := topic.payloads (w.client.frames.drop v.client.frames.length)
          (topic ∈ topics → cache.latest? w.client topic = payloads.getLast? ∧
            cache.history w.client topic = payloads.drop (payloads.length - size)) ∧
          (topic ∉ topics → cache.latest? w.client topic = none ∧
            cache.history w.client topic = [])) := by
  refine ⟨fun positive isMute => ?_, fun v w ran goesOn => ?_⟩
  · exact runTurns?_returns (.start Client.answer _ _) positive isMute
  · obtain ⟨u, first, done⟩ := runTurns?_append_iff.mp ran
    rw [runTurns?_singleton] at done
    obtain ⟨before, after⟩ := List.forall_mem_append.mp leaves
    have early : ∀ t ∈ earlier, t.Leaves number [] := (List.forall_mem_append.mp before).1
    have fits : ∀ spec ∈ (attached earlier)[number]?, spec = (topics, size) := by
      intro spec same
      have same : (attached earlier)[number]? = some spec := same
      have within := (List.getElem?_eq_some_iff.mp same).1
      rw [attached_append, List.getElem?_append_left within, same] at listed
      exact Option.some.inj listed
    obtain ⟨tidy, count⟩ := tidy_of_run settings clock fits early first
    have empty := tidy.begins count listed begins done
    obtain ⟨tidy, cache, here⟩ := exists_of_run settings clock listed before ran
    obtain ⟨last, there, new, passes⟩ := tidy.passes here after uncleared goesOn
    obtain ⟨label, channels⟩ := last.labelled cache there
    have lists := TopicCache.lists_distinct topics
    refine ⟨⟨new, passes.frames.symm⟩, cache, there, label ▸ lists.mem, label ▸ lists.order,
      fun leaves => ?_, fun alive => ?_⟩
    · obtain ⟨before, after⟩ := List.forall_mem_append.mp leaves
      obtain ⟨tidy, _⟩ := exists_of_run settings clock listed before ran
      obtain ⟨last, _⟩ := tidy.passes here after uncleared goesOn
      have all := last.alive fun topic listed => List.mem_map_of_mem listed
      rwa [sink_of_some there] at all
    · have heard (topic : Topic) :
          .topic topic ∈ cache.subscriptions.map Prod.fst ↔ topic ∈ topics := by
        rw [channels, List.mem_map_of_injective fun _ _ => Channel.topic.inj]
        exact lists.mem topic
      rw [sink_of_some here] at passes
      have contents := passes.contents alive
      rw [empty] at contents
      have shown := Sink.after_shows (k := ⟨number, size, cache.subscriptions, []⟩) heard
        (CacheContents.shows_empty topics size) new
      have same : cache.contents w.client =
          Sink.after ⟨number, size, cache.subscriptions, []⟩ new .empty := by
        rw [TopicCache.contents, last.id_eq there, contents]
        rfl
      rw [passes.frames, List.drop_left]
      intro topic payloads
      simp only [TopicCache.latest?, TopicCache.history, same]
      exact ⟨fun listed => ⟨shown.latest topic listed, shown.history topic listed⟩,
        shown.others topic⟩

def arrives (text : String) : Turn := .act (.act (.wake 0 (.inbound (.text text))))

def opening : List Turn :=
  [.act (.act .connect), .attach [.notification, .heartbeat, .notification] 2,
    .attach [.notification] 1, .act (.act (.wake 0 .look)), .act (.act (.wake 0 .opened)),
    arrives "\x7b\"type\":\"notification\",\"data\":1,\"timestamp\":1\x7d"]

def sequel : List Turn :=
  [arrives "\x7b\"type\":\"notification\",\"data\":2,\"timestamp\":2\x7d",
    arrives "\x7b\"type\":\"cli.output\",\"data\":3,\"timestamp\":3\x7d", .clear 1,
    .act (.act (.wake 0 (.inbound .close))), .act (.act (.wake 0 .elapsed)),
    .act (.act (.wake 0 .opened)),
    arrives "\x7b\"type\":\"notification\",\"data\":4,\"timestamp\":4\x7d", .drop 1,
    arrives "\x7b\"type\":\"notification\",\"data\":5,\"timestamp\":5\x7d"]

theorem runTurns?_caches_sequel :
    (attached (opening ++ [Turn.clear 0]))[0]? =
        some ([.notification, .heartbeat, .notification], 2) ∧
      .clear 0 ∉ sequel ∧ (∀ t ∈ opening ++ [Turn.clear 0] ++ sequel, t.Leaves 0 [] ∧ t.IsMute) ∧
      ∃ (v w : Shelf) (cache : TopicCache),
        (start SharedClient.loopback 0).runTurns? 1 (opening ++ [Turn.clear 0]) = some v ∧
        v.runTurns? 1 sequel = some w ∧ w.caches[0]? = some cache ∧ cache.IsAlive w.client ∧
        (cache.latest? w.client .notification).map Payload.timestamp = some 5 ∧
        (cache.history w.client .notification).map Payload.timestamp = [4, 5] ∧
        cache.latest? w.client .heartbeat = none ∧ cache.history w.client .cliOutput = [] := by
  have uncleared : .clear 0 ∉ sequel := by simp [sequel, arrives]
  have leaves (guarded : List Channel) :
      ∀ t ∈ opening ++ [Turn.clear 0] ++ sequel, t.Leaves 0 guarded := by
    simp [opening, sequel, arrives, Turn.Leaves, SharedClient.Deed.Leaves]
  have mute : ∀ t ∈ opening ++ [Turn.clear 0] ++ sequel, t.IsMute := by
    simp [opening, sequel, arrives, Turn.IsMute, SharedClient.Deed.IsMute]
  obtain ⟨returns, holds⟩ :=
    runTurns?_caches 1 SharedClient.loopback 0 rfl (.inr rfl) uncleared (leaves [])
  obtain ⟨w, ran⟩ := returns Nat.one_pos mute
  obtain ⟨v, ran, goesOn⟩ := runTurns?_append_iff.mp ran
  obtain ⟨_, cache, there, _, _, alive, shown⟩ := holds v w ran goesOn
  have alive := alive (leaves _)
  have known : ((start SharedClient.loopback 0).runTurns? 1 (opening ++ [Turn.clear 0])).bind
      (fun v => (v.runTurns? 1 sequel).map fun w =>
        let frames := w.client.frames.drop v.client.frames.length
        ((Topic.notification.payloads frames).map Payload.timestamp,
          (Topic.heartbeat.payloads frames).length)) = some ([2, 4, 5], 0) := by decide +kernel
  simp only [ran, goesOn, Option.bind_some, Option.map_some, Option.some_inj, Prod.mk.injEq,
    List.length_eq_zero_iff] at known
  obtain ⟨notifications, beats⟩ := known
  have length := congrArg List.length notifications
  rw [List.length_map] at length
  obtain ⟨latest, history⟩ := (shown alive .notification).1 (by simp)
  refine ⟨rfl, uncleared, fun t there => ⟨leaves [] t there, mute t there⟩, v, w, cache, ran,
    goesOn, there, alive, ?_, ?_, ?_, ?_⟩
  · rw [latest, ← List.getLast?_map, notifications]
    rfl
  · rw [history, List.map_drop, notifications, length]
    rfl
  · rw [((shown alive .heartbeat).1 (by simp)).1, beats]
    rfl
  · exact ((shown alive .cliOutput).2 (by simp)).2

end Shelf

end ControlPanel
