import ControlPanel.Proofs.Monitor.Reports
import ControlPanel.Proofs.Realtime.Shown

/-!
# How a monitor ends

A monitor watches, leaves when its loop has ended, and returns. `Monitor.Sound` is what holds in
each of these stages, and every move keeps it (`Monitor.Sound.step?`). So every run has a result
which tells what has happened to the client (`Monitor.run?_outcome`).
-/

namespace ControlPanel

@[simp] theorem Client.release_emitted (c : Client) (subscriptions : Subscriptions) :
    (c.release subscriptions).emitted = c.emitted := by
  induction subscriptions generalizing c with
  | nil => rfl
  | cons entry rest ih => exact ih _

theorem Link.beginDisconnect_slot (l : Link) : l.beginDisconnect.slot = none := by
  unfold beginDisconnect
  split
  · assumption
  · rfl

namespace Watch

@[simp] theorem release_host (w : Watch) : w.release.host = w.client.host := by
  simp [release, TopicCache.detach, Binding.detach]

@[simp] theorem release_emitted (w : Watch) : w.release.emitted = w.client.emitted := by
  simp [release, TopicCache.detach, Binding.detach]

/-- Started on a new client, and nobody else has registered or removed listeners. -/
structure Untouched (settings : RealtimeSettings) (clock : Int) (w : Watch) : Prop where
  registry : w.client.registry = (start (.start settings clock)).client.registry
  cache : w.cache = (start (.start settings clock)).cache
  binding : w.binding = (start (.start settings clock)).binding

theorem unreported_of_mem_summary (w : Watch) : ∀ notice ∈ w.summary, notice.isReport = false := by
  intro notice there
  rcases List.mem_append.mp there with there | there
  · obtain ⟨entry, _, rfl⟩ := List.mem_map.mp there
    rfl
  · obtain ⟨error, _, rfl⟩ := Option.map_eq_some_iff.mp (Option.mem_toList.mp there)
    rfl

theorem filterMap_seen_summary (w : Watch) :
    w.summary.filterMap Notice.seen? = w.cache.seen w.client := by
  have unseen : ((w.binding.status w.client).lastError.map Notice.lastError).toList.filterMap
      Notice.seen? = [] := by
    cases (w.binding.status w.client).lastError <;> rfl
  rw [summary, List.filterMap_append, unseen, List.append_nil, List.filterMap_map]
  exact List.filterMap_some

theorem Untouched.seen {settings : RealtimeSettings} {clock : Int} {w : Watch}
    (untouched : w.Untouched settings clock) {contents : CacheContents} {events : List Event}
    (caches : w.client.host.caches = [contents]) (follows : contents.Follows events)
    (paired : events.filterMap Event.datum? = events.filterMap Event.frame?) :
    w.cache.seen w.client = Topic.seen events := by
  have topics : w.cache.topics = Topic.catalog := congrArg TopicCache.topics untouched.cache
  have id : w.cache.id = 0 := congrArg TopicCache.id untouched.cache
  have own : w.cache.contents w.client = contents := by
    rw [TopicCache.contents, id, caches]
    rfl
  rw [TopicCache.seen, topics, Topic.seen]
  refine List.filterMap_congr fun topic known => ?_
  rw [TopicCache.latest?, own, follows topic known, paired, Option.map_map]
  rfl

end Watch

/-! ## Waking workers -/

structure Client.Continues (c c' : Client) (attached : Bool) (policy : ReconnectPolicy)
    (awaited : List Nat) : Prop where
  keeps : Watch.Keeps attached c'
  registry : c'.registry = c.registry
  emitted : ∃ events, c'.emitted = c.emitted ++ events
  free : c.host.slot = none → c'.host.slot = none
  attested : c'.Attested policy
  orderly : c'.host.view.Orderly awaited
  phased : c'.host.view.Phased

theorem Client.Attested.wake? {c : Client} {attached : Bool} {policy : ReconnectPolicy}
    {awaited : List Nat} {limit : Nat} (attested : c.Attested policy)
    (keeps : Watch.Keeps attached c) (orderly : c.host.view.Orderly awaited)
    (phased : c.host.view.Phased) (free : awaited ≠ [] → c.host.slot = none)
    (positive : 0 < limit) (id : Nat) (signal : Signal) :
    ∃ c', c.wake? limit id signal = some c' ∧ c.Continues c' attached policy awaited := by
  obtain ⟨c', woken, outcome⟩ := keeps.wake? positive id signal
  -- no listener connects, so a client that has given up its worker gets no other one
  have still (free : c.host.slot = none) : c'.host.slot = none := by
    rcases outcome with rfl | ⟨worker, loop, effects, _, _, goesOn⟩
    · exact free
    · have view : c'.host.bare.view = _ := congrArg Link.view goesOn.bare
      rw [Link.setLoop_view, Link.performAll_view] at view
      have unclaimed : c.host.bare.view.slot = some id → .release ∉ effects := fun taken => by
        cases free.symm.trans taken
      calc c'.host.slot
        _ = (c.host.bare.view.performAll id effects).slot := congrArg View.slot view
        _ = c.host.slot := View.performAll_slot unclaimed
        _ = none := free
  have quiet : awaited ≠ [] → c'.host.view.slot = none := fun waiting => still (free waiting)
  have orderly' := wake?_orderly orderly woken quiet
  have phased' := wake?_phased orderly phased woken quiet
  refine ⟨c', woken, ?_⟩
  rcases outcome with rfl | ⟨worker, loop, effects, listed, move, goesOn⟩
  · exact ⟨keeps, rfl, ⟨[], (List.append_nil _).symm⟩, still, attested, orderly', phased'⟩
  · exact ⟨goesOn.keeps, goesOn.registry, ⟨_, goesOn.emitted⟩, still,
      attested.goesOn listed move goesOn, orderly', phased'⟩

theorem Link.beginDisconnect_orderly {l : Link} (orderly : l.view.Orderly []) :
    l.beginDisconnect.view.Orderly l.slot.toList := by
  cases taken : l.slot with
  | none =>
    rw [beginDisconnect_of_free taken]
    exact orderly
  | some id =>
    rw [beginDisconnect_view taken]
    exact orderly.tell taken

theorem Link.beginDisconnect_phased {l : Link} (phased : l.view.Phased) :
    l.beginDisconnect.view.Phased := by
  cases taken : l.slot with
  | none => rwa [beginDisconnect_of_free taken]
  | some id =>
    rw [beginDisconnect_view taken]
    exact phased.tell id

/-! ## Stages of a monitor -/

namespace Monitor

def policy (m : Monitor) : ReconnectPolicy := m.settings.realtime.reconnect

inductive Staged (clock : Int) (m : Monitor) : Prop
  | watching (endless : m.conclusion = none) (unreturned : m.hasReturned = false)
      (unawaited : m.awaited = none) (keeps : Watch.Keeps true m.client)
      (untouched : m.watch.Untouched m.settings.realtime clock)
  | leaving (c : Conclusion) (concluded : m.conclusion = some c)
      (unreturned : m.hasReturned = false) (tells : c.Tells m.isTold m.policy m.client.emitted)
      (keeps : Watch.Keeps false m.client) (free : m.client.host.slot = none)
  | returned (c : Conclusion) (concluded : m.conclusion = some c) (done : m.hasReturned = true)
      (tells : c.Tells m.isTold m.policy m.client.emitted) (unawaited : m.awaited = none)
      (notes : m.client.host.notes = Watch.notes m.client.emitted)
      (free : m.client.host.slot = none) (alone : m.client.registry.channels = [])

structure Sound (clock : Int) (m : Monitor) : Prop where
  attested : m.client.Attested m.policy
  orderly : m.client.host.view.Orderly m.awaited.toList
  phased : m.client.host.view.Phased
  staged : m.Staged clock

variable {clock : Int} {m : Monitor} {limit : Nat}

theorem Sound.notes (sound : m.Sound clock) :
    m.client.host.notes = Watch.notes m.client.emitted := by
  cases sound.staged with
  | watching _ _ _ keeps => exact keeps.notes
  | leaving _ _ _ _ keeps => exact keeps.notes
  | returned _ _ _ _ _ notes => exact notes

/-! ## Moves -/

theorem Sound.tell (sound : m.Sound clock) : { m with isTold := true }.Sound clock := by
  refine ⟨sound.attested, sound.orderly, sound.phased, ?_⟩
  cases sound.staged with
  | watching endless unreturned unawaited keeps untouched =>
    exact .watching endless unreturned unawaited keeps
      ⟨untouched.registry, untouched.cache, untouched.binding⟩
  | leaving c concluded unreturned tells keeps free =>
    exact .leaving c concluded unreturned tells.tell keeps free
  | returned c concluded done tells unawaited notes free alone =>
    exact .returned c concluded done tells.tell unawaited notes free alone

theorem Sound.wait (sound : m.Sound clock) (unreturned : m.hasReturned = false) (now : Int) :
    (m.withClient { m.client with host := { m.client.host with clock := now } }).Sound clock := by
  refine ⟨sound.attested.congr rfl rfl, sound.orderly, sound.phased, ?_⟩
  cases sound.staged with
  | watching endless unreturned unawaited keeps untouched =>
    exact .watching endless unreturned unawaited (keeps.withHost rfl rfl)
      ⟨untouched.registry, untouched.cache, untouched.binding⟩
  | leaving c concluded unreturned tells keeps free =>
    exact .leaving c concluded unreturned tells (keeps.withHost rfl rfl) free
  | returned c concluded done => cases unreturned.symm.trans done

theorem Sound.wake (sound : m.Sound clock) (unreturned : m.hasReturned = false)
    (positive : 0 < limit) (id : Nat) (signal : Signal) :
    ∃ c', m.client.wake? limit id signal = some c' ∧ (m.withClient c').Sound clock := by
  cases sound.staged with
  | watching endless unreturned unawaited keeps untouched =>
    obtain ⟨c', woken, goesOn⟩ := sound.attested.wake? keeps sound.orderly sound.phased
      (fun waiting => absurd (congrArg Option.toList unawaited) waiting) positive id signal
    refine ⟨c', woken, goesOn.attested, goesOn.orderly, goesOn.phased, ?_⟩
    exact .watching endless unreturned unawaited goesOn.keeps
      ⟨goesOn.registry.trans untouched.registry, untouched.cache, untouched.binding⟩
  | leaving c concluded unreturned tells keeps free =>
    obtain ⟨c', woken, goesOn⟩ := sound.attested.wake? keeps sound.orderly sound.phased
      (fun _ => free) positive id signal
    refine ⟨c', woken, goesOn.attested, goesOn.orderly, goesOn.phased, ?_⟩
    obtain ⟨events, emitted⟩ := goesOn.emitted
    exact .leaving c concluded unreturned (emitted ▸ tells.append events) goesOn.keeps
      (goesOn.free free)
  | returned c concluded done => cases unreturned.symm.trans done

theorem Sound.conclude (sound : m.Sound clock) (endless : m.conclusion = none)
    {surrender : Option Nat} (told : surrender = none → m.isTold = true)
    (gaveUp : ∀ attempts, surrender = some attempts →
      attempts = m.policy.maxAttempts ∧ ∃ n, .reconnectFailed n ∈ m.client.emitted) :
    (m.conclude surrender).Sound clock := by
  cases sound.staged with
  | leaving c concluded => cases endless.symm.trans concluded
  | returned c concluded => cases endless.symm.trans concluded
  | watching endless unreturned unawaited keeps untouched =>
    have host : (m.conclude surrender).client.host = m.client.host.beginDisconnect :=
      congrArg Link.beginDisconnect m.watch.release_host
    have emitted : (m.conclude surrender).client.emitted = m.client.emitted :=
      m.watch.release_emitted
    have awaited : (m.conclude surrender).awaited = m.client.host.slot :=
      congrArg Link.slot m.watch.release_host
    have orderly : m.client.host.view.Orderly [] := by
      simpa [unawaited] using sound.orderly
    have heard : m.client.emitted.take m.client.emitted.length = m.client.emitted :=
      List.take_length
    -- the conclusion goes by all that has been emitted up to now
    refine ⟨sound.attested.congr ?_ emitted, ?_, ?_, .leaving _ rfl unreturned ?_ ?_ ?_⟩
    · rw [host, Link.beginDisconnect_loops]
    · rw [host, awaited]
      exact Link.beginDisconnect_orderly orderly
    · rw [host]
      exact Link.beginDisconnect_phased sound.phased
    · rw [emitted]
      refine ⟨told, ?_, Nat.le_refl _, ?_, ?_, ?_⟩
      · rwa [heard]
      · rw [heard, ← keeps.notes]
      · exact m.watch.unreported_of_mem_summary
      · obtain ⟨contents, caches, follows⟩ := keeps.cached rfl
        rw [heard, ← untouched.seen caches follows sound.attested.paired]
        exact m.watch.filterMap_seen_summary
    · refine ⟨?_, ?_, nofun⟩
      · exact (Watch.staffed_release _ clock untouched.registry untouched.cache
          untouched.binding).of_registry_eq rfl
      · rw [host, emitted, (Link.beginDisconnect_records _).notes, keeps.notes]
    · rw [host]
      exact Link.beginDisconnect_slot _

theorem finished_of_mayFinish {id : Nat} (may : m.mayFinish = true) (waits : m.awaited = some id) :
    ∃ cancelled, m.client.host.view.roster[id]? = some (.finished, cancelled) := by
  have done : (SharedClient.mk m.client [id]).mayFinish id = true := by
    rw [mayFinish, Bool.and_eq_true, waits, Option.all_some] at may
    simpa [SharedClient.mayFinish] using may.2
  exact ((SharedClient.mayFinish_iff _ id).mp done).2

theorem finish_client (m : Monitor) : m.finish.client = { m.client with
    registry := m.client.registry.clear
    host := if m.awaited.isSome then m.client.host.finishDisconnect else m.client.host } := by
  cases waits : m.awaited <;> simp only [finish, waits] <;> rfl

theorem Sound.finish_view (sound : m.Sound clock) (may : m.mayFinish = true) :
    m.finish.client.host.view.Orderly [] ∧ m.finish.client.host.view.Phased := by
  have orderly := sound.orderly
  rw [finish_client]
  cases waits : m.awaited with
  | none =>
    rw [waits] at orderly
    exact ⟨orderly, sound.phased⟩
  | some id =>
    rw [waits] at orderly
    obtain ⟨cancelled, listed⟩ := finished_of_mayFinish may waits
    have waited : id ∈ (some id).toList := List.mem_singleton_self id
    have left := orderly.close waited listed
    have rest := orderly.atRest_of_awaited waited listed
    rw [Option.toList_some, List.erase_cons_head] at left
    exact ⟨left, View.AtRest.phased rest rfl⟩

theorem Sound.finish (sound : m.Sound clock) (unreturned : m.hasReturned = false)
    (may : m.mayFinish = true) : m.finish.Sound clock := by
  obtain ⟨orderly, phased⟩ := sound.finish_view may
  have emitted : m.finish.client.emitted = m.client.emitted := by rw [finish_client]
  have kept {α : Type} (read : Link → α)
      (same : ∀ link : Link, read link.finishDisconnect = read link) :
      read m.finish.client.host = read m.client.host := by
    rw [finish_client]
    dsimp only
    split
    · exact same _
    · rfl
  cases sound.staged with
  | watching endless =>
    rw [mayFinish, endless] at may
    cases may
  | returned c concluded done => cases unreturned.symm.trans done
  | leaving c concluded _ tells keeps free =>
    refine ⟨sound.attested.congr (kept Link.loops fun _ => rfl) emitted, orderly, phased, ?_⟩
    refine .returned c concluded rfl (emitted ▸ tells) rfl ?_ ?_ ?_
    · rw [kept Link.notes fun _ => rfl, emitted, keeps.notes]
    · rw [kept Link.slot fun _ => rfl, free]
    · rw [finish_client]
      rfl

theorem Sound.surrendered (sound : m.Sound clock) (surrendered : m.hasSurrendered = true) :
    ∃ attempts, .reconnectFailed attempts ∈ m.client.emitted := by
  rw [hasSurrendered, sound.notes] at surrendered
  exact Watch.hasSurrendered_notes surrendered

theorem Sound.step? (sound : m.Sound clock) (positive : 0 < limit) (move : Move) :
    ∃ m', m.step? limit move = some m' ∧ m'.Sound clock := by
  unfold Monitor.step?
  split
  · exact ⟨m, rfl, sound⟩
  · rename_i unreturned
    replace unreturned : m.hasReturned = false := by simpa using unreturned
    cases move with
    | tell => exact ⟨_, rfl, sound.tell⟩
    | stop =>
      refine ⟨_, rfl, ?_⟩
      split
      · rename_i both
        rw [Bool.and_eq_true, Option.isNone_iff_eq_none] at both
        exact sound.conclude both.2 (fun _ => both.1) nofun
      · exact sound
    | surrender =>
      refine ⟨_, rfl, ?_⟩
      split
      · rename_i both
        rw [Bool.and_eq_true, Option.isNone_iff_eq_none] at both
        refine sound.conclude both.2 nofun fun attempts same => ?_
        cases same
        exact ⟨rfl, sound.surrendered both.1⟩
      · exact sound
    | finish =>
      refine ⟨_, rfl, ?_⟩
      split
      · rename_i may
        exact sound.finish unreturned may
      · exact sound
    | wait now => exact ⟨_, rfl, sound.wait unreturned now⟩
    | wake id signal =>
      obtain ⟨c', woken, still⟩ := sound.wake unreturned positive id signal
      exact ⟨_, Option.map_eq_some_iff.mpr ⟨c', woken, rfl⟩, still⟩

/-! ## Runs -/

theorem Sound.run? (positive : 0 < limit) (moves : List Move) {m : Monitor}
    (sound : m.Sound clock) : ∃ m', m.run? limit moves = some m' ∧ m'.Sound clock := by
  induction moves generalizing m with
  | nil => exact ⟨m, rfl, sound⟩
  | cons move moves ih =>
    obtain ⟨middle, stepped, still⟩ := sound.step? positive move
    obtain ⟨m', rest, last⟩ := ih still
    refine ⟨m', ?_, last⟩
    rw [Monitor.run?, List.foldlM_cons, stepped]
    exact rest

def heard (m : Monitor) : List Event :=
  m.conclusion.elim [] fun c => m.client.emitted.take c.heard

theorem heard_of_concluded {c : Conclusion} (concluded : m.conclusion = some c) :
    m.heard = m.client.emitted.take c.heard := by
  rw [heard, concluded]
  rfl

theorem Sound.tells (sound : m.Sound clock) {c : Conclusion} (concluded : m.conclusion = some c) :
    c.Tells m.isTold m.policy m.client.emitted := by
  cases sound.staged with
  | watching endless => cases endless.symm.trans concluded
  | leaving other own _ tells =>
    cases own.symm.trans concluded
    exact tells
  | returned other own _ tells =>
    cases own.symm.trans concluded
    exact tells

theorem Sound.log (sound : m.Sound clock) {c : Conclusion} (concluded : m.conclusion = some c) :
    m.log = m.opening ++ (m.client.emitted.take c.heard).filterMap Notice.ofEvent? ++ closing c ++
      (m.client.emitted.drop c.heard).filterMap Notice.ofEvent? := by
  have tells := sound.tells concluded
  have notes : m.client.host.notes = Watch.notes (m.client.emitted.take c.heard) ++
      Watch.notes (m.client.emitted.drop c.heard) := by
    rw [← Watch.notes_append, List.take_append_drop, sound.notes]
  rw [Monitor.log, concluded]
  dsimp only
  rw [notes, List.take_left' tells.noted.symm, List.drop_left' tells.noted.symm,
    Watch.notices_notes, Watch.notices_notes]

theorem filter_closing {c : Conclusion}
    (unreported : ∀ notice ∈ c.summary, notice.isReport = false) :
    (closing c).filter Notice.isReport = [] := by
  refine List.filter_eq_nil_iff.mpr fun notice there => ?_
  rcases List.mem_append.mp there with there | there
  · split at there
    · cases there
    · rw [List.mem_singleton.mp there]
      exact Bool.false_ne_true
  · rw [unreported notice there]
    exact Bool.false_ne_true

theorem filterMap_seen_closing (c : Conclusion) :
    (closing c).filterMap Notice.seen? = c.summary.filterMap Notice.seen? := by
  rw [closing, List.filterMap_append]
  split <;> rfl

theorem opening_unreported (m : Monitor) :
    m.opening.filter Notice.isReport = [] ∧ m.opening.filterMap Notice.seen? = [] := by
  unfold opening statusNotice
  cases m.status <;> exact ⟨rfl, rfl⟩

theorem Sound.reports (sound : m.Sound clock) :
    m.log.filter Notice.isReport = m.client.emitted.filterMap Notice.ofEvent? := by
  cases concluded : m.conclusion with
  | none =>
    rw [Monitor.log, concluded]
    dsimp only
    rw [sound.notes, Watch.notices_notes, List.filter_append, m.opening_unreported.1,
      Notice.filter_reports, List.nil_append]
  | some c =>
    simp only [sound.log concluded, List.filter_append, m.opening_unreported.1,
      filter_closing (sound.tells concluded).unreported, Notice.filter_reports, List.nil_append,
      List.append_nil]
    rw [← List.filterMap_append, List.take_append_drop]

theorem Sound.seen (sound : m.Sound clock) :
    m.log.filterMap Notice.seen? = Topic.seen m.heard := by
  cases concluded : m.conclusion with
  | none =>
    rw [Monitor.log, heard, concluded]
    dsimp only
    rw [sound.notes, Watch.notices_notes, List.filterMap_append, m.opening_unreported.2,
      Notice.seen_reports]
    rfl
  | some c =>
    simp only [sound.log concluded, List.filterMap_append, m.opening_unreported.2,
      filterMap_seen_closing, Notice.seen_reports, List.nil_append, List.append_nil]
    rw [heard_of_concluded concluded]
    exact (sound.tells concluded).seen

theorem Sound.closed (sound : m.Sound clock) (done : m.hasReturned = true) :
    m.client.host.phase = .closed ∧ m.client.host.slot = none ∧
      (∀ worker ∈ m.client.host.workers, worker.loop.stage = .finished) ∧
        ∀ channel, m.client.count channel = 0 := by
  cases sound.staged with
  | watching _ unreturned => cases unreturned.symm.trans done
  | leaving _ _ unreturned => cases unreturned.symm.trans done
  | returned c _ _ _ unawaited _ free alone =>
    have orderly := sound.orderly
    rw [unawaited] at orderly
    have idle : ¬ m.client.host.view.Busy := fun ⟨_, _, taken, _⟩ => by cases free.symm.trans taken
    have rest := orderly.atRest idle rfl
    refine ⟨sound.phased.rest rest, free, fun worker there => ?_, fun channel => ?_⟩
    · obtain ⟨j, listed⟩ := List.mem_iff_getElem?.mp there
      refine rest j worker.member ?_
      rw [Link.view_roster_getElem?, listed]
      rfl
    · rw [Emitter.count, Registry.count, Registry.on, alone]
      rfl

def visit : List Move :=
  let text := "\x7b\"type\":\"notification\",\"data\":7,\"timestamp\":3\x7d"
  [.wake 0 .look, .wake 0 .opened, .wake 0 (.inbound (.text text)), .tell, .stop, .wake 0 .look,
    .wake 0 .closeDone, .finish]

end Monitor

end ControlPanel
