import ControlPanel.Proofs.Realtime.Bookkeeping
import ControlPanel.Proofs.Realtime.Exclusion
import Mathlib.Logic.Function.Basic
import Mathlib.Logic.Relation

/-!
# Threads

Handles, listeners and connection loops run in threads of their own. In `Threads` a loop does its
effects one by one, and between any two of them other threads do what they like: frames are sent,
also by a handle that has looked at the phase long before, and other loops go on. However the
threads take turns, the log of every worker is as it should be (`Threads.reaches_traffic`).
-/

namespace ControlPanel

/-! ## Taking turns between effects -/

structure Threads where
  link : Link
  pending : Nat → Pending

namespace Threads

def idle (l : Link) : Threads := ⟨l, fun _ => none⟩

def set (w : Threads) (id : Nat) (pending : Pending) : Nat → Pending :=
  Function.update w.pending id pending

/-- What one thread does at a time. That a loop finds itself not told to stop and starts to write
is one: a disconnect comes before both or after. -/
inductive Step : Threads → Threads → Prop
  | answer (w : Threads) (request : ClientRequest) :
      Step w { w with link := (Client.answer request w.link).1 }
  -- the phase was looked at before, when it was another one
  | sendLate (w : Threads) (frame : Frame) (l : Link)
      (queued : Link.enqueue? { w.link with phase := .opened } frame = some l) :
      Step w { w with link := { l with phase := w.link.phase } }
  | beginDisconnect (w : Threads) (free : ∀ id, w.link.slot = some id →
      ∀ effect ∈ (w.pending id).elim [] Prod.snd, effect.isWrite = false) :
      Step w { w with link := w.link.beginDisconnect }
  | finishDisconnect (w : Threads) : Step w { w with link := w.link.finishDisconnect }
  | wait (w : Threads) (now : Int) : Step w { w with link := { w.link with clock := now } }
  | wake (w : Threads) (id : Nat) (worker : Worker) (signal : Signal)
      (here : w.link.workers[id]? = some worker) (waiting : w.pending id = none)
      (other : ∀ frame, signal ≠ .outbound frame) :
      Step w { w with
        pending := w.set id (some (worker.loop.poll worker.cancelled w.link.clock signal)) }
  | writeNext (w : Threads) (id : Nat) (loop : ConnectionLoop) (cancelled : Bool) (frame : Frame)
      (queue : List Frame) (here : w.link.workers[id]? = some ⟨loop, cancelled, frame :: queue⟩)
      (waiting : w.pending id = none) (session : loop.stage = .session) :
      Step w ⟨{ w.link with workers := w.link.workers.set id ⟨loop, cancelled, queue⟩ },
        w.set id (some (loop.poll cancelled w.link.clock (.outbound frame)))⟩
  | perform (w : Threads) (id : Nat) (loop : ConnectionLoop) (effect : Effect)
      (effects : List Effect) (next : w.pending id = some (loop, effect :: effects)) :
      Step w ⟨(w.link.perform id effect).1, w.set id (some (loop, effects))⟩
  | rest (w : Threads) (id : Nat) (loop : ConnectionLoop) (done : w.pending id = some (loop, [])) :
      Step w ⟨w.link.setLoop id loop, w.set id none⟩

def Reaches (settings : RealtimeSettings) (clock : Int) (w : Threads) : Prop :=
  Relation.ReflTransGen Step (idle (.start settings clock)) w

structure Unused (w : Threads) (id : Nat) : Prop where
  log : w.link.log id = []
  pending : w.pending id = none
  outbound : w.link.outbound ≠ some id
  slot : w.link.slot ≠ some id

structure Accounted (w : Threads) (id : Nat) : Prop where
  sound : ∀ worker, w.link.workers[id]? = some worker →
    ∃ ledger, worker.Sound (w.link.log id) (w.pending id) (w.link.outbound = some id) ledger
  unused : w.link.workers[id]? = none → w.Unused id

theorem set_self (w : Threads) (id : Nat) (pending : Pending) : w.set id pending id = pending :=
  Function.update_self ..

theorem set_of_ne (w : Threads) {id j : Nat} (other : j ≠ id) (pending : Pending) :
    w.set id pending j = w.pending j :=
  Function.update_of_ne other ..

namespace Accounted

variable {w w' : Threads} {id : Nat}

theorem start (settings : RealtimeSettings) (clock : Int) (id : Nat) :
    (idle (.start settings clock)).Accounted id :=
  ⟨nofun, fun _ => ⟨rfl, rfl, nofun, nofun⟩⟩

theorem log_follows (accounted : w.Accounted id) :
    ∃ ledger, Ledger.Follows .start (w.link.log id) ledger := by
  cases here : w.link.workers[id]? with
  | none =>
    rw [(accounted.unused here).log]
    exact ⟨_, .refl _⟩
  | some worker =>
    obtain ⟨ledger, sound⟩ := accounted.sound worker here
    exact ⟨ledger, sound.log⟩

theorem exists_sound (accounted : w.Accounted id)
    {pending : ConnectionLoop × List Effect} (busy : w.pending id = some pending) :
    ∃ worker ledger, w.link.workers[id]? = some worker ∧
      worker.Sound (w.link.log id) (some pending) (w.link.outbound = some id) ledger := by
  cases here : w.link.workers[id]? with
  | none => cases busy.symm.trans (accounted.unused here).pending
  | some worker =>
    obtain ⟨ledger, sound⟩ := accounted.sound worker here
    exact ⟨worker, ledger, rfl, busy ▸ sound⟩

theorem of_sound (worker : Worker) {log : Log} {pending : Pending}
    (here : w.link.workers[id]? = some worker) (logged : w.link.log id = log)
    (waits : w.pending id = pending)
    (sound : ∃ ledger, worker.Sound log pending (w.link.outbound = some id) ledger) :
    w.Accounted id := by
  subst logged waits
  constructor
  · intro other there
    cases here.symm.trans there
    exact sound
  · intro gone
    cases here.symm.trans gone

theorem of_same (accounted : w.Accounted id)
    (workers : w'.link.workers[id]? = w.link.workers[id]?)
    (log : w'.link.log id = w.link.log id) (pending : w'.pending id = w.pending id)
    (outbound : w'.link.outbound = some id → w.link.outbound = some id)
    (slot : w'.link.slot = some id → w.link.slot = some id) : w'.Accounted id := by
  constructor
  · intro worker here
    obtain ⟨ledger, sound⟩ := accounted.sound worker (workers ▸ here)
    rw [log, pending]
    exact ⟨ledger, sound.weaken outbound⟩
  · intro here
    have unused := accounted.unused (workers ▸ here)
    exact ⟨log.trans unused.log, pending.trans unused.pending,
      fun taken => unused.outbound (outbound taken), fun taken => unused.slot (slot taken)⟩

theorem connect (accounted : w.Accounted id) :
    Accounted { w with link := w.link.connect } id := by
  unfold Link.connect
  split
  · exact accounted
  · rcases Nat.lt_trichotomy id w.link.workers.length with old | new | beyond
    · refine accounted.of_same (List.getElem?_append_left old) rfl rfl (·) fun taken => ?_
      cases taken
      exact absurd old (Nat.lt_irrefl _)
    · have unused := accounted.unused (by simp [new])
      refine .of_sound ⟨.start w.link.settings.reconnect, false, []⟩
        (by simp [new]) unused.log unused.pending ⟨.start, ?_⟩
      exact .start _ unused.outbound
    · refine accounted.of_same ?_ rfl rfl (fun taken => taken) fun taken => ?_
      · rw [List.getElem?_eq_none (by simp; omega), List.getElem?_eq_none (by omega)]
      · cases taken
        exact absurd beyond (Nat.lt_irrefl _)

theorem enqueue? (accounted : w.Accounted id) {frame : Frame} {l : Link}
    (queued : w.link.enqueue? frame = some l) : Accounted { w with link := l } id := by
  unfold Link.enqueue? at queued
  split at queued
  next owner phase outbound =>
    cases queued
    by_cases own : owner = id
    · subst own
      cases here : w.link.workers[owner]? with
      | none => exact absurd outbound (accounted.unused here).outbound
      | some worker =>
        obtain ⟨ledger, sound⟩ := accounted.sound worker here
        have logged := (w.link.log_record owner owner (.accepted frame)).trans (if_pos rfl)
        refine .of_sound { worker with queue := worker.queue ++ [frame] } ?_ logged
          rfl (sound.accept outbound frame)
        rw [List.getElem?_modify_eq, here]
        rfl
    · refine accounted.of_same (List.getElem?_modify_ne _ _ own) ?_ rfl (fun taken => taken)
        fun taken => taken
      exact (w.link.log_record owner id _).trans (if_neg (Ne.symm own))
  next => cases queued

theorem answer (accounted : w.Accounted id) (request : ClientRequest) :
    Accounted { w with link := (Client.answer request w.link).1 } id := by
  cases request with
  | connect => exact accounted.connect
  | send topic data =>
    change Accounted { w with link := (Client.answerSend w.link topic data).1 } id
    unfold Client.answerSend
    split
    next l queued => exact accounted.enqueue? queued
    next => exact accounted
  | note | isConnected | bind | tellBinding | cache =>
    exact accounted.of_same rfl rfl rfl (·) (·)

theorem beginDisconnect (accounted : w.Accounted id)
    (free : ∀ id, w.link.slot = some id →
      ∀ effect ∈ (w.pending id).elim [] Prod.snd, effect.isWrite = false) :
    Accounted { w with link := w.link.beginDisconnect } id := by
  unfold Link.beginDisconnect
  split
  · exact accounted
  · rename_i owner taken
    by_cases own : owner = id
    · subst own
      cases here : w.link.workers[owner]? with
      | none => exact absurd taken (accounted.unused here).slot
      | some worker =>
        obtain ⟨ledger, sound⟩ := accounted.sound worker here
        have logged := (w.link.log_record owner owner .cancelled).trans (if_pos rfl)
        refine .of_sound { worker with cancelled := true } ?_ logged rfl
          (sound.cancel (free owner taken))
        rw [List.getElem?_modify_eq, here]
        rfl
    · refine accounted.of_same (List.getElem?_modify_ne _ _ own) ?_ rfl (fun taken => taken) nofun
      exact (w.link.log_record owner id _).trans (if_neg (Ne.symm own))

theorem of_other (accounted : w.Accounted id) {owner : Nat} (other : owner ≠ id) (l : Link)
    (pending : Pending) (workers : l.workers[id]? = w.link.workers[id]?)
    (log : l.log id = w.link.log id) (outbound : l.outbound = some id → w.link.outbound = some id)
    (slot : l.slot = some id → w.link.slot = some id) :
    Accounted ⟨l, w.set owner pending⟩ id :=
  accounted.of_same workers log (w.set_of_ne (Ne.symm other) pending) outbound slot

theorem wake (accounted : w.Accounted id) {owner : Nat} {worker : Worker} {signal : Signal}
    (here : w.link.workers[owner]? = some worker) (waiting : w.pending owner = none)
    (other : ∀ frame, signal ≠ .outbound frame) :
    Accounted { w with
      pending := w.set owner (some (worker.loop.poll worker.cancelled w.link.clock signal)) }
      id := by
  by_cases own : owner = id
  · subst own
    obtain ⟨ledger, sound⟩ := accounted.sound worker here
    rw [waiting] at sound
    exact .of_sound worker here rfl (w.set_self owner _) ⟨ledger, sound.poll w.link.clock other⟩
  · exact accounted.of_other own w.link _ rfl rfl (·) (·)

theorem writeNext (accounted : w.Accounted id) {owner : Nat} {loop : ConnectionLoop}
    {cancelled : Bool} {frame : Frame} {queue : List Frame}
    (here : w.link.workers[owner]? = some ⟨loop, cancelled, frame :: queue⟩)
    (waiting : w.pending owner = none) (session : loop.stage = .session) :
    Accounted ⟨{ w.link with workers := w.link.workers.set owner ⟨loop, cancelled, queue⟩ },
      w.set owner (some (loop.poll cancelled w.link.clock (.outbound frame)))⟩ id := by
  by_cases own : owner = id
  · subst own
    obtain ⟨ledger, sound⟩ := accounted.sound _ here
    rw [waiting] at sound
    have bound := (List.getElem?_eq_some_iff.mp here).1
    exact .of_sound _ (List.getElem?_set_self bound) rfl (w.set_self owner _)
      ⟨ledger, sound.take session w.link.clock⟩
  · exact accounted.of_other own _ _ (List.getElem?_set_ne own) rfl (·) (·)

theorem perform (accounted : w.Accounted id) {owner : Nat} {loop : ConnectionLoop}
    {effect : Effect} {effects : List Effect}
    (next : w.pending owner = some (loop, effect :: effects)) :
    Accounted ⟨(w.link.perform owner effect).1, w.set owner (some (loop, effects))⟩ id := by
  by_cases own : owner = id
  · subst own
    obtain ⟨worker, ledger, here, sound⟩ := accounted.exists_sound next
    refine .of_sound (if effect.drops then { worker with queue := [] } else worker) ?_
      ((w.link.perform_log owner owner effect).trans (if_pos rfl)) (w.set_self owner _)
      (sound.perform ?_)
    · rw [Link.perform_workers]
      split
      · rw [List.getElem?_modify_eq, here]
        rfl
      · exact here
    · intro taken
      cases effect with
      | openOutbound => exact .inl rfl
      | closeOutbound => cases taken
      | _ => exact .inr ⟨nofun, taken⟩
  · refine accounted.of_other own _ _ ?_ ?_ ?_ ?_
    · rw [Link.perform_workers]
      split
      · exact List.getElem?_modify_ne _ _ own
      · rfl
    · exact (w.link.perform_log owner id effect).trans (if_neg (Ne.symm own))
    · intro taken
      cases effect with
      | openOutbound => exact absurd (Option.some.inj taken) own
      | closeOutbound => cases taken
      | _ => exact taken
    · intro taken
      cases effect with
      | release =>
        simp only [Link.perform] at taken
        split at taken
        · cases taken
        · exact taken
      | _ => exact taken

theorem rest (accounted : w.Accounted id) {owner : Nat} {loop : ConnectionLoop}
    (done : w.pending owner = some (loop, [])) :
    Accounted ⟨w.link.setLoop owner loop, w.set owner none⟩ id := by
  by_cases own : owner = id
  · subst own
    obtain ⟨worker, ledger, here, sound⟩ := accounted.exists_sound done
    refine .of_sound { worker with loop } ?_ rfl (w.set_self owner _)
      ⟨ledger, sound.rest⟩
    rw [Link.setLoop, List.getElem?_modify_eq, here]
    rfl
  · exact accounted.of_other own _ _ (List.getElem?_modify_ne _ _ own) rfl (·) (·)

end Accounted

variable {settings : RealtimeSettings} {clock : Int} {w w' : Threads}

theorem Step.accounted (step : Step w w') {id : Nat} (accounted : w.Accounted id) :
    w'.Accounted id := by
  cases step with
  | answer request => exact accounted.answer request
  | sendLate frame l queued =>
    have opened : Accounted { w with link := { w.link with phase := .opened } } id :=
      accounted.of_same rfl rfl rfl (·) (·)
    exact (opened.enqueue? queued).of_same rfl rfl rfl (·) (·)
  | beginDisconnect free => exact accounted.beginDisconnect free
  | finishDisconnect => exact accounted.of_same rfl rfl rfl nofun (·)
  | wait now => exact accounted.of_same rfl rfl rfl (·) (·)
  | wake id worker signal here waiting other => exact accounted.wake here waiting other
  | writeNext id loop cancelled frame queue here waiting session =>
    exact accounted.writeNext here waiting session
  | perform id loop effect effects next => exact accounted.perform next
  | rest id loop done => exact accounted.rest done

theorem Reaches.accounted (reached : Reaches settings clock w) (id : Nat) : w.Accounted id := by
  induction reached with
  | refl => exact .start settings clock id
  | tail _ step ih => exact step.accounted ih

/-! ## Actions as steps -/

theorem Reaches.step (reached : Reaches settings clock w) (step : Step w w') :
    Reaches settings clock w' :=
  Relation.ReflTransGen.tail reached step

theorem Reaches.answer (reached : Reaches settings clock w) (request : ClientRequest) :
    Reaches settings clock { w with link := (Client.answer request w.link).1 } :=
  reached.step (.answer w request)

variable {limit : Nat} {c c' : Client}

/-- The effects of a loop, with all that listeners do meanwhile. -/
theorem reaches_performAll {id : Nat} {loop : ConnectionLoop} {effects : List Effect}
    {pending : Nat → Pending} (waiting : pending id = none)
    (performed : effects.foldlM (Client.perform? limit id) c = some c')
    (before : Reaches settings clock ⟨c.host, Function.update pending id (some (loop, effects))⟩) :
    Reaches settings clock ⟨c'.host.setLoop id loop, pending⟩ := by
  have after : Reaches settings clock
      ⟨c'.host, Function.update pending id (some (loop, []))⟩ := by
    refine Client.performAll_invariant (P := fun effects link => Reaches settings clock
      ⟨link, Function.update pending id (some (loop, effects))⟩) ?_ ?_ performed before
    · exact fun effects request link reached => reached.answer request
    · intro effect effects link reached
      have next := reached.step (.perform _ id loop effect effects (Function.update_self ..))
      rwa [set, Function.update_idem] at next
  have rest := after.step (.rest _ id loop (Function.update_self ..))
  rwa [set, Function.update_idem, ← waiting, Function.update_eq_self] at rest

theorem reaches_wake? {id : Nat} {signal : Signal} (other : ∀ frame, signal ≠ .outbound frame)
    (woken : c.wake? limit id signal = some c') (before : Reaches settings clock (idle c.host)) :
    Reaches settings clock (idle c'.host) := by
  unfold Client.wake? at woken
  split at woken
  next =>
    cases woken
    exact before
  next worker here =>
    obtain ⟨d, performed, same⟩ := Option.map_eq_some_iff.mp woken
    cases same
    exact reaches_performAll rfl performed
      (before.step (.wake (idle c.host) id worker signal here rfl other))

theorem reaches_writeNext? {id : Nat} (written : c.writeNext? limit id = some c')
    (before : Reaches settings clock (idle c.host)) : Reaches settings clock (idle c'.host) := by
  unfold Client.writeNext? at written
  split at written
  next loop cancelled frame queue here =>
    split at written
    next session =>
      have bound := (List.getElem?_eq_some_iff.mp here).1
      have taken := before.step (.writeNext (idle c.host) id loop cancelled frame queue here rfl
        session)
      unfold Client.wake? at written
      simp only [List.getElem?_set_self bound] at written
      obtain ⟨d, performed, same⟩ := Option.map_eq_some_iff.mp written
      cases same
      exact reaches_performAll rfl performed taken
    next =>
      cases written
      exact before
  next =>
    cases written
    exact before

/-- The actions of parties that take turns are steps of threads. -/
theorem reaches_step? {u u' : SharedClient} {action : SharedClient.Action}
    (queued : ∀ id frame, action ≠ .wake id (.outbound frame))
    (stepped : u.step? limit action = some u')
    (before : Reaches settings clock (idle u.client.host)) :
    Reaches settings clock (idle u'.client.host) := by
  cases action with
  | connect =>
    cases stepped
    exact before.answer .connect
  | disconnect =>
    cases stepped
    exact before.step (.beginDisconnect _ fun _ _ => nofun)
  | finishDisconnect id =>
    cases stepped
    split
    · exact before.step (.finishDisconnect _)
    · exact before
  | send topic data =>
    obtain ⟨⟨c, _⟩, sent, same⟩ := Option.map_eq_some_iff.mp stepped
    cases same
    obtain ⟨⟨_, _⟩, asked, same⟩ := Option.map_eq_some_iff.mp sent
    cases same
    exact Emitter.ask?_invariant (P := fun link => Reaches settings clock (idle link))
      (fun request link reached => reached.answer request) asked before
  | subscribe | clear =>
    cases stepped
    exact before
  | unsubscribe channel target =>
    cases stepped
    exact (Emitter.unsubscribe_host u.client channel target) ▸ before
  | wait now =>
    cases stepped
    exact before.step (.wait _ now)
  | wake id signal =>
    obtain ⟨c, woken, same⟩ := Option.map_eq_some_iff.mp stepped
    cases same
    exact reaches_wake? (fun frame same => queued id frame (same ▸ rfl)) woken before
  | writeNext id =>
    obtain ⟨c, written, same⟩ := Option.map_eq_some_iff.mp stepped
    cases same
    exact reaches_writeNext? written before

theorem reaches_run? {u u' : SharedClient} {actions : List SharedClient.Action}
    (queued : ∀ id frame, .wake id (.outbound frame) ∉ actions)
    (ran : u.run? limit actions = some u')
    (before : Reaches settings clock (idle u.client.host)) :
    Reaches settings clock (idle u'.client.host) := by
  induction actions generalizing u with
  | nil =>
    cases ran
    exact before
  | cons action actions ih =>
    obtain ⟨next, stepped, rest⟩ := SharedClient.run?_cons_iff.mp ran
    refine ih (fun id frame later => queued id frame (List.mem_cons_of_mem _ later)) rest ?_
    refine reaches_step? (fun id frame same => ?_) stepped before
    exact queued id frame (same ▸ List.mem_cons_self ..)

/-! ## Sends -/

theorem answer_accepted (l : Link) {request : ClientRequest}
    (other : ∀ topic data, request ≠ .send topic data) :
    (Client.answer request l).1.accepted = l.accepted := by
  cases request with
  | send topic data => exact absurd rfl (other topic data)
  | connect =>
    change l.connect.accepted = l.accepted
    unfold Link.connect
    split <;> rfl
  | note | isConnected | bind | tellBinding | cache => rfl

theorem perform_accepted (l : Link) (id : Nat) (effect : Effect) :
    (l.perform id effect).1.accepted = l.accepted := by
  cases effect with
  | openOutbound | closeOutbound | dial | write | beat | hangUp => exact l.accepted_record id rfl
  | phase | attempts | release | emit => rfl

/-- A send is accepted for the connection that takes frames, or it is told to the listeners of
errors and leaves nothing else behind. -/
theorem askWith?_send (deliver : Emitter.Delivery ClientRequest Link) (c : Client) (topic : Topic)
    (data : Json) :
    (∃ id link, c.host.phase = .opened ∧ c.host.outbound = some id ∧
      link.history = c.host.history ++ [(id, .accepted ⟨topic, data, c.host.clock⟩)] ∧
      c.askWith? Client.answer deliver (.send topic data) = some ({ c with host := link }, 1)) ∨
    (c.host.phase ≠ .opened ∨ c.host.outbound = none) ∧
      c.askWith? Client.answer deliver (.send topic data) =
        (deliver c (.error (.notConnected topic))).map fun told => (told.1, 0) := by
  cases queued : c.host.enqueue? ⟨topic, data, c.host.clock⟩ with
  | some link =>
    left
    have asked : c.askWith? Client.answer deliver (.send topic data) =
        some ({ c with host := link }, 1) := by
      simp only [Emitter.askWith?, Client.answer, Client.answerSend, queued]
    unfold Link.enqueue? at queued
    split at queued
    next id phase outbound =>
      cases queued
      exact ⟨id, _, phase, outbound, rfl, asked⟩
    next => cases queued
  | none =>
    right
    constructor
    · by_contra both
      obtain ⟨phase, outbound⟩ := not_or.mp both
      obtain ⟨id, outbound⟩ := Option.ne_none_iff_exists'.mp outbound
      simp [Link.enqueue?, not_not.mp phase, outbound] at queued
    · simp only [Emitter.askWith?, Client.answer, Client.answerSend, queued]

/-- However threads take turns, also in the middle of what a loop does at a time, the log of every
worker is as it should be. Every run is such a course, only `send` accepts frames, and it answers
whether it has. A disconnect is placed between the steps of a session only: where its loop has found
that it is not told to stop and is about to write, a disconnect has to wait (`free` in
`Step.beginDisconnect`). -/
theorem reaches_traffic (settings : RealtimeSettings) (clock : Int) :
    (∀ w, Reaches settings clock w → ∀ id, (w.link.log id).Traffic) ∧
    (∀ limit actions u, (∀ id frame, .wake id (.outbound frame) ∉ actions) →
      (SharedClient.start settings clock).run? limit actions = some u →
      Reaches settings clock (idle u.client.host)) ∧
    (∀ (l : Link) (request : ClientRequest), (∀ topic data, request ≠ .send topic data) →
      (Client.answer request l).1.accepted = l.accepted) ∧
    (∀ (l : Link) (id : Nat) (effect : Effect), (l.perform id effect).1.accepted = l.accepted) ∧
    ∀ (deliver : Emitter.Delivery ClientRequest Link) (c : Client) (topic : Topic) (data : Json),
      (∃ id link, c.host.phase = .opened ∧ c.host.outbound = some id ∧
        link.history = c.host.history ++ [(id, .accepted ⟨topic, data, c.host.clock⟩)] ∧
        c.askWith? Client.answer deliver (.send topic data) = some ({ c with host := link }, 1)) ∨
      (c.host.phase ≠ .opened ∨ c.host.outbound = none) ∧
        c.askWith? Client.answer deliver (.send topic data) =
          (deliver c (.error (.notConnected topic))).map fun told => (told.1, 0) := by
  refine ⟨fun w reached id => ?_, ?_, ?_, perform_accepted, askWith?_send⟩
  · obtain ⟨ledger, follows⟩ := (reached.accounted id).log_follows
    exact follows.traffic
  · exact fun limit actions u queued ran => reaches_run? queued ran .refl
  · exact fun l request other => answer_accepted l other

def twoConnections : List SharedClient.Action :=
  [.connect, .wake 0 .look, .wake 0 .opened, .wait 1, .send .notification .null, .wait 2,
    .send .notification .null, .writeNext 0, .wake 0 .written, .wake 0 (.inbound .close), .wait 3,
    .send .notification .null, .wake 0 .elapsed, .wake 0 .opened, .wait 4,
    .send .notification .null, .writeNext 0, .disconnect]

theorem reaches_traffic_twoConnections :
    ∃ u, (SharedClient.start SharedClient.loopback 0).run? 1 twoConnections = some u ∧
      (u.client.host.log 0).Traffic ∧
      (u.client.host.log 0).accepted.map Frame.timestamp = [1, 2, 4] ∧
      (u.client.host.log 0).written.map Frame.timestamp = [1, 4] := by
  have queued : ∀ id frame, .wake id (.outbound frame) ∉ twoConnections := by
    simp [twoConnections]
  have known : ((SharedClient.start SharedClient.loopback 0).run? 1 twoConnections).map
      (fun u => ((u.client.host.log 0).accepted.map Frame.timestamp,
        (u.client.host.log 0).written.map Frame.timestamp)) = some ([1, 2, 4], [1, 4]) := by
    decide +kernel
  obtain ⟨u, ran, same⟩ := Option.map_eq_some_iff.mp known
  obtain ⟨traffic, reaches, _⟩ := reaches_traffic SharedClient.loopback 0
  exact ⟨u, ran, traffic _ (reaches 1 twoConnections u queued ran) 0, congrArg Prod.fst same,
    congrArg Prod.snd same⟩

end Threads

end ControlPanel
