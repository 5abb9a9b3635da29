import ControlPanel.Proofs.Realtime.Orderly

/-!
# One connection at a time

As long as no worker is started while a disconnect waits, at most one worker is connected or about
to be, and the session of a worker that is not told to stop is served
(`SharedClient.run?_exclusive`). The condition is needed: the rest of a disconnect does not look
whose connection it closes.
-/

namespace ControlPanel

def Stage.isUp : Stage → Bool
  | handshake | session | writing | closing => true
  | starting | waiting | finished => false

namespace SharedClient

variable {limit : Nat}

/-! ## What the invariant is for -/

/-- No two workers are connected or about to be. -/
def Exclusive (u : SharedClient) : Prop :=
  ∀ (i j : Nat) (worker worker' : Worker), u.client.host.workers[i]? = some worker →
    u.client.host.workers[j]? = some worker' → worker.loop.stage.isUp = true →
    worker'.loop.stage.isUp = true → i = j

/-- While the session of a worker is running that is not told to stop, the client is open and
takes frames for it. -/
def Served (limit : Nat) (u : SharedClient) : Prop :=
  ∀ (i : Nat) (worker : Worker), u.client.host.workers[i]? = some worker →
    worker.cancelled = false → worker.loop.stage.serves = true →
    u.client.isConnected = true ∧ u.client.host.outbound = some i ∧
      ∀ topic data, ∃ c, u.client.send? limit topic data = some (c, true)

theorem send?_of_serving {c : Client} {id : Nat} (serving : c.host.view.Serving id)
    (topic : Topic) (data : Json) : ∃ c', c.send? limit topic data = some (c', true) := by
  have opened : c.host.phase = .opened := serving.1
  have outbound : c.host.outbound = some id := serving.2
  simp [Client.send?, Emitter.ask?, Emitter.askWith?, Client.answer, Client.answerSend,
    Link.enqueue?, opened, outbound]

theorem listed_of_here {u : SharedClient} {i : Nat} {worker : Worker}
    (here : u.client.host.workers[i]? = some worker) :
    u.view.roster[i]? = some (worker.loop.stage, worker.cancelled) := by
  rw [view, Link.view_roster_getElem?, here]
  rfl

theorem exclusive_of_orderly {u : SharedClient} {awaited : List Nat}
    (orderly : u.view.Orderly awaited) : u.Exclusive := by
  have sole : ∃ id, u.view.Sole id := by
    cases orderly with
    | idle free rest => exact ⟨0, fun j member listed _ => rest j member listed⟩
    | working id _ _ _ _ _ _ sole => exact ⟨id, sole⟩
    | leaving id _ _ _ sole => exact ⟨id, sole⟩
  obtain ⟨id, sole⟩ := sole
  have only : ∀ (i : Nat) (worker : Worker), u.client.host.workers[i]? = some worker →
      worker.loop.stage.isUp = true → i = id := by
    intro i worker here up
    by_cases own : i = id
    · exact own
    · rw [show worker.loop.stage = .finished from sole i _ (listed_of_here here) own] at up
      cases up
  intro i j worker worker' here here' up up'
  rw [only i worker here up, only j worker' here' up']

theorem served_of_orderly {u : SharedClient} {awaited : List Nat}
    (orderly : u.view.Orderly awaited) : u.Served limit := by
  intro i worker here untold serves
  have working : worker.loop.stage ≠ .finished := by
    intro finished
    rw [finished] at serves
    cases serves
  have listed := listed_of_here here
  cases orderly with
  | idle free rest => exact absurd (rest i _ listed) working
  | working id stage taken known _ _ serving sole =>
    by_cases own : i = id
    · subst own
      have same : stage = worker.loop.stage :=
        congrArg Prod.fst (Option.some.inj (known.symm.trans listed))
      have now := serving (same ▸ serves)
      exact ⟨decide_eq_true now.1, now.2, send?_of_serving now⟩
    · exact absurd (sole i _ listed own) working
  | leaving id stage free known sole =>
    by_cases own : i = id
    · subst own
      have told : true = worker.cancelled :=
        congrArg Prod.snd (Option.some.inj (known.symm.trans listed))
      rw [untold] at told
      cases told
    · exact absurd (sole i _ listed own) working

/-! ## What happens otherwise -/

theorem here_of_listed {u : SharedClient} {i : Nat} {stage : Stage} {cancelled : Bool}
    (listed : u.view.roster[i]? = some (stage, cancelled)) :
    ∃ worker, u.client.host.workers[i]? = some worker ∧ worker.loop.stage = stage ∧
      worker.cancelled = cancelled := by
  rw [view, Link.view_roster_getElem?] at listed
  obtain ⟨worker, here, same⟩ := Option.map_eq_some_iff.mp listed
  exact ⟨worker, here, congrArg Prod.fst same, congrArg Prod.snd same⟩

theorem unserved_of_closed {u : SharedClient} {i : Nat}
    (listed : u.view.roster[i]? = some (.session, false)) (closed : u.view.phase = .closed) :
    ¬ u.Served limit := by
  obtain ⟨worker, here, running, untold⟩ := here_of_listed listed
  intro served
  have opened : u.view.phase = .opened :=
    of_decide_eq_true (served i worker here untold (by rw [running]; rfl)).1
  rw [closed] at opened
  cases opened

theorem not_exclusive_of_up {u : SharedClient} {i j : Nat} {stage stage' : Stage}
    {cancelled cancelled' : Bool} (listed : u.view.roster[i]? = some (stage, cancelled))
    (listed' : u.view.roster[j]? = some (stage', cancelled')) (up : stage.isUp = true)
    (up' : stage'.isUp = true) (other : i ≠ j) : ¬ u.Exclusive := by
  obtain ⟨worker, here, rfl, _⟩ := here_of_listed listed
  obtain ⟨worker', here', rfl, _⟩ := here_of_listed listed'
  exact fun exclusive => other (exclusive i j worker worker' here here' up up')

structure Overlap (v : View) (old new : Nat) (leaving arriving : Stage) : Prop where
  taken : v.slot = some new
  told : v.roster[old]? = some (leaving, true)
  untold : v.roster[new]? = some (arriving, false)

namespace Overlap

variable {u u' : SharedClient} {v : View} {old new : Nat} {leaving arriving : Stage}
  {signal : Signal}

theorem ne (overlap : Overlap v old new leaving arriving) : old ≠ new := by
  rintro rfl
  cases overlap.told.symm.trans overlap.untold

theorem wake_new {next : Stage} (overlap : Overlap u.view old new leaving arriving)
    (working : arriving ≠ .finished)
    (becomes : ∀ now backoff,
      (ConnectionLoop.poll false now ⟨arriving, backoff⟩ signal).1.stage = next)
    (holds : ∀ now backoff,
      .release ∉ (ConnectionLoop.poll false now ⟨arriving, backoff⟩ signal).2)
    (stepped : u.step? limit (.wake new signal) = some u') :
    u'.awaited = u.awaited ∧ Overlap u'.view old new leaving next := by
  obtain ⟨c, woken, rfl⟩ := Option.map_eq_some_iff.mp stepped
  obtain ⟨backoff, slot, roster⟩ := Client.wake?_undisturbed overlap.taken overlap.untold working
    overlap.untold (fun _ => holds u.client.host.clock) woken
  rw [becomes] at roster
  refine ⟨rfl, slot, ?_, ?_⟩
  · rw [view, roster, View.enter, List.getElem?_modify_ne _ _ overlap.ne.symm]
    exact overlap.told
  · rw [view, roster, View.enter, List.getElem?_modify_eq, ← view, overlap.untold]
    rfl

theorem wake_old (overlap : Overlap u.view old new leaving arriving)
    (working : arriving ≠ .finished) (stepped : u.step? limit (.wake old signal) = some u') :
    u'.awaited = u.awaited ∧ ∃ now backoff, Overlap u'.view old new
      (ConnectionLoop.poll true now ⟨leaving, backoff⟩ signal).1.stage arriving := by
  obtain ⟨c, woken, rfl⟩ := Option.map_eq_some_iff.mp stepped
  obtain ⟨backoff, slot, roster⟩ := Client.wake?_undisturbed overlap.taken overlap.untold working
    overlap.told (fun own => absurd own.symm overlap.ne) woken
  refine ⟨rfl, u.client.host.clock, backoff, slot, ?_, ?_⟩
  · rw [view, roster, View.enter, List.getElem?_modify_eq, ← view, overlap.told]
    rfl
  · rw [view, roster, View.enter, List.getElem?_modify_ne _ _ overlap.ne]
    exact overlap.untold

/-- The rest of a disconnect closes the session that has started meanwhile. -/
theorem finish_unserved (overlap : Overlap u.view old new .finished .session)
    (waited : old ∈ u.awaited) (stepped : u.step? limit (.finishDisconnect old) = some u') :
    ¬ u'.Served limit := by
  have may : u.mayFinish old = true := (u.mayFinish_iff old).mpr ⟨waited, true, overlap.told⟩
  cases stepped
  rw [if_pos may]
  exact unserved_of_closed overlap.untold rfl

end Overlap

/-- Another handle connects while a disconnect waits for a worker: the new worker gets as far as a
running session before the old one stops and the disconnect returns. -/
def overtake (u : SharedClient) (old : Nat) : List Action :=
  let new := u.client.host.workers.length
  [.connect, .wake new .look, .wake new .opened, .wake old .written, .wake old .look,
    .wake old .closeDone, .finishDisconnect old]

theorem overtake_unserved {u u' : SharedClient} {old : Nat} (orderly : u.view.Orderly u.awaited)
    (waited : old ∈ u.awaited) (ran : u.run? limit (u.overtake old) = some u') :
    ¬ u'.Served limit := by
  obtain ⟨stage, free, listed⟩ := orderly.leaving_of_awaited waited
  have idle : ¬ u.view.Busy := by
    rintro ⟨id, member, taken, _⟩
    cases free.symm.trans taken
  have size : u.client.host.workers.length = u.view.roster.length := (List.length_map _).symm
  rw [overtake, size] at ran
  obtain ⟨u₁, connected, ran⟩ := run?_cons_iff.mp ran
  have waits₁ : u₁.awaited = u.awaited := by
    cases connected
    rfl
  -- the slot is free while the disconnect waits, so the new worker starts beside the old one
  have engaged : Overlap u₁.view old u.view.roster.length stage .starting := by
    have same : u₁.view = u.view.engage := by
      cases connected
      exact Link.connect_view_of_idle idle
    have present := (List.getElem?_eq_some_iff.mp listed).1
    rw [same]
    exact ⟨rfl, by rw [View.engage, List.getElem?_append_left present, listed],
      by simp [View.engage]⟩
  obtain ⟨u₂, looked, ran⟩ := run?_cons_iff.mp ran
  obtain ⟨waits₂, shaking⟩ := engaged.wake_new (by decide) (fun _ _ => rfl)
    (fun _ _ => by simp [ConnectionLoop.poll, ConnectionLoop.dial]) looked
  obtain ⟨u₃, opened, ran⟩ := run?_cons_iff.mp ran
  obtain ⟨waits₃, running⟩ := shaking.wake_new (by decide) (fun _ _ => rfl)
    (fun _ _ => by simp [ConnectionLoop.poll, ConnectionLoop.opened]) opened
  -- whatever the old worker was doing when it was told to stop, three wake-ups finish it
  obtain ⟨u₄, written, ran⟩ := run?_cons_iff.mp ran
  obtain ⟨waits₄, _, _, overlap⟩ := running.wake_old (by decide) written
  obtain ⟨u₅, told, ran⟩ := run?_cons_iff.mp ran
  obtain ⟨waits₅, _, _, overlap⟩ := overlap.wake_old (by decide) told
  obtain ⟨u₆, closed, ran⟩ := run?_cons_iff.mp ran
  obtain ⟨waits₆, _, _, overlap⟩ := overlap.wake_old (by decide) closed
  obtain ⟨u₇, finished, ran⟩ := run?_cons_iff.mp ran
  cases ran
  rw [ConnectionLoop.poll_told] at overlap
  refine overlap.finish_unserved ?_ finished
  rw [waits₆, waits₅, waits₄, waits₃, waits₂, waits₁]
  exact waited

/-! ## Every run -/

/-- If no worker is started while a disconnect waits, there is at most one connection and its
session is served. If one is started, this goes wrong for every worker that is waited for. -/
theorem run?_exclusive (settings : RealtimeSettings) (clock : Int) (actions : List Action)
    {u : SharedClient} (ran : (start settings clock).run? limit actions = some u)
    (quiet : (start settings clock).QuietRun limit actions) :
    u.Exclusive ∧ u.Served limit ∧ ∀ old ∈ u.awaited,
      (∀ u', u.run? limit (u.overtake old) = some u' → ¬ u'.Served limit) ∧
        (u.client.Silent → 0 < limit → ∃ u', u.run? limit (u.overtake old) = some u') := by
  have orderly := run?_orderly actions ran (View.orderly_start settings clock) quiet
  refine ⟨exclusive_of_orderly orderly, served_of_orderly orderly, ?_⟩
  intro old waited
  refine ⟨fun u' overtaken => overtake_unserved orderly waited overtaken, ?_⟩
  intro silent positive
  exact run?_silent _ silent positive (by simp [overtake])

def loopback : RealtimeSettings := ⟨"ws://127.0.0.1:9", 60000, .default⟩

def parting : List Action := [.connect, .wake 0 .look, .wake 0 .opened, .disconnect]

theorem run?_exclusive_parting : ∃ u, (start loopback 0).run? 1 parting = some u ∧
    (start loopback 0).QuietRun 1 parting ∧ u.awaited = [0] ∧ u.Exclusive ∧ u.Served 1 ∧
      ∃ u', u.run? 1 (u.overtake 0) = some u' ∧ ¬ u'.Served 1 := by
  have quiet : (start loopback 0).QuietRun 1 parting := by
    refine ⟨fun waiting => absurd rfl waiting, ?_⟩
    rintro _ ⟨⟩
    refine ⟨fun waiting => absurd rfl waiting, ?_⟩
    rintro _ ⟨⟩
    refine ⟨fun waiting => absurd rfl waiting, ?_⟩
    rintro _ ⟨⟩
    refine ⟨fun waiting => absurd rfl waiting, ?_⟩
    rintro _ ⟨⟩
    exact fun _ => rfl
  have known : ((start loopback 0).run? 1 parting).map
      (fun u => (u.awaited, u.client.registry.channels.isEmpty)) = some ([0], true) := by
    decide +kernel
  obtain ⟨u, ran, same⟩ := Option.map_eq_some_iff.mp known
  have waits : u.awaited = [0] := congrArg Prod.fst same
  have silent : u.client.Silent := List.isEmpty_iff.mp (congrArg Prod.snd same)
  obtain ⟨exclusive, served, needed⟩ := run?_exclusive loopback 0 parting ran quiet
  obtain ⟨overtaken, possible⟩ := needed 0 (waits ▸ List.mem_singleton_self 0)
  obtain ⟨u', ran'⟩ := possible silent Nat.one_pos
  exact ⟨u, ran, quiet, waits, exclusive, served, u', ran', overtaken u' ran'⟩

def crossing : List Action := parting ++ [.connect, .wake 1 .look]

def collision : List Action :=
  crossing ++ [.wake 1 .opened, .wake 0 .look, .wake 0 .closeDone, .finishDisconnect 0]

/-- A listener that connects again is called when the connection has ended, and the worker that it
starts dials while the disconnect still waits. -/
def relapse : List Action :=
  .subscribe .disconnected "" (fun _ _ => .ask .connect fun _ => .done) :: parting ++
    [.wake 0 .look, .wake 0 .closeDone, .wake 1 .look]

theorem unserved_of_run {actions : List Action} (id : Nat)
    (known : ((start loopback 0).run? limit actions).map
      (fun u => (u.view.roster[id]?, u.view.phase)) = some (some (.session, false), .closed)) :
    ∃ u, (start loopback 0).run? limit actions = some u ∧ ¬ u.Served limit := by
  obtain ⟨u, ran, same⟩ := Option.map_eq_some_iff.mp known
  exact ⟨u, ran, unserved_of_closed (congrArg Prod.fst same) (congrArg Prod.snd same)⟩

/-- Two workers are connected or about to be, and in the end a session is not served. A listener can
bring this about on its own: the disconnect closes what it has started, a handshake or a session. -/
theorem run?_not_exclusive :
    (∃ u, (start loopback 0).run? 1 crossing = some u ∧ ¬ u.Exclusive) ∧
      (∃ u, (start loopback 0).run? 1 collision = some u ∧ ¬ u.Served 1) ∧
      (∃ u u', (start loopback 0).run? 1 relapse = some u ∧ u.view.phase = .connecting ∧
        u.step? 1 (.finishDisconnect 0) = some u' ∧ u'.view.phase = .closed ∧
        u'.view.slot = some 1 ∧ u'.view.roster = [(.finished, true), (.handshake, false)]) ∧
      ∃ u, (start loopback 0).run? 1 (relapse ++ [.wake 1 .opened, .finishDisconnect 0]) = some u ∧
        ¬ u.Served 1 := by
  refine ⟨?crossed, ?collided, ?overwritten, ?unserved⟩
  case crossed =>
    have known : ((start loopback 0).run? 1 crossing).map (fun u => u.view.roster) =
        some [(.session, true), (.handshake, false)] := by decide +kernel
    obtain ⟨u, ran, roster⟩ := Option.map_eq_some_iff.mp known
    refine ⟨u, ran, ?_⟩
    exact not_exclusive_of_up (i := 0) (j := 1) (by rw [roster]; rfl) (by rw [roster]; rfl) rfl rfl
      (by decide)
  case collided => exact unserved_of_run 1 (by decide +kernel)
  case overwritten =>
    have known : ((start loopback 0).run? 1 relapse).any fun u =>
        u.view.phase = .connecting && (u.step? 1 (.finishDisconnect 0)).any fun u' =>
          u'.view.phase = .closed && u'.view.slot = some 1 &&
            u'.view.roster = [(.finished, true), (.handshake, false)] := by decide +kernel
    obtain ⟨u, ran, known⟩ := (Option.any_eq_true ..).mp known
    obtain ⟨before, known⟩ := Bool.and_eq_true_iff.mp known
    obtain ⟨u', finished, known⟩ := (Option.any_eq_true ..).mp known
    simp only [Bool.and_eq_true, decide_eq_true_eq] at before known
    exact ⟨u, u', ran, before, finished, known.1.1, known.1.2, known.2⟩
  case unserved => exact unserved_of_run 1 (by decide +kernel)

end SharedClient

end ControlPanel
