import ControlPanel.Proofs.Listeners.Delivery
import ControlPanel.Proofs.Realtime.Course
import ControlPanel.Realtime.Client

/-!
# The view of a client

A `View` is the part of a client's state by which handles, listeners and loops get in each other's
way. Listeners change it only by connecting (`Client.answer_view`), and a loop that has nothing to
fear from them does what its effects do alone (`Client.performAll_undisturbed`).
-/

namespace ControlPanel

theorem map_modify {α β : Type} {f : α → β} {g : α → α} {h : β → β}
    (same : ∀ a, f (g a) = h (f a)) (l : List α) (i : Nat) :
    (l.modify i g).map f = (l.map f).modify i h := by
  induction l generalizing i with
  | nil => cases i <;> rfl
  | cons a l ih =>
    cases i with
    | zero => simp only [List.modify_zero_cons, List.map_cons, same]
    | succ i => simp only [List.modify_succ_cons, List.map_cons, ih]

theorem foldlM_invariant {α σ : Type} {P : σ → Prop} {f : σ → α → Option σ}
    (keeps : ∀ s a s', f s a = some s' → P s → P s') {l : List α} {s s' : σ}
    (ran : l.foldlM f s = some s') (before : P s) : P s' := by
  induction l generalizing s with
  | nil =>
    cases ran
    exact before
  | cons a l ih =>
    rw [List.foldlM_cons] at ran
    obtain ⟨middle, first, rest⟩ := Option.bind_eq_some_iff.mp ran
    exact ih rest (keeps s a middle first before)

theorem foldlM_returns {α σ : Type} {P : σ → Prop} {f : σ → α → Option σ} {l : List α}
    (returns : ∀ s, ∀ a ∈ l, P s → ∃ s', f s a = some s' ∧ P s') {s : σ} (before : P s) :
    ∃ s', l.foldlM f s = some s' ∧ P s' := by
  induction l generalizing s with
  | nil => exact ⟨s, rfl, before⟩
  | cons a l ih =>
    obtain ⟨middle, first, still⟩ := returns s a (List.mem_cons_self ..) before
    obtain ⟨last, rest, still⟩ := ih (fun s b later => returns s b (List.mem_cons_of_mem a later))
      still
    refine ⟨last, ?_, still⟩
    rw [List.foldlM_cons, first]
    exact rest

/-! ## Views -/

structure View where
  phase : Phase
  slot : Option Nat
  outbound : Option Nat
  roster : List (Stage × Bool)

def Worker.member (worker : Worker) : Stage × Bool := (worker.loop.stage, worker.cancelled)

def Link.view (l : Link) : View := ⟨l.phase, l.slot, l.outbound, l.workers.map Worker.member⟩

namespace View

def Busy (v : View) : Prop :=
  ∃ id member, v.slot = some id ∧ v.roster[id]? = some member ∧ member.1 ≠ .finished

def engage (v : View) : View :=
  { v with
    phase := .connecting
    slot := some v.roster.length
    roster := v.roster ++ [(.starting, false)] }

def perform (id : Nat) (v : View) : Effect → View
  | .phase phase => { v with phase }
  | .openOutbound => { v with outbound := some id }
  | .closeOutbound => { v with outbound := none }
  | .release => { v with slot := if v.slot = some id then none else v.slot }
  | _ => v

def performAll (id : Nat) (v : View) (effects : List Effect) : View :=
  effects.foldl (perform id) v

def tell (v : View) (id : Nat) : View :=
  { v with slot := none, roster := v.roster.modify id fun member => (member.1, true) }

def close (v : View) : View := { v with outbound := none, phase := .closed }

def enter (v : View) (id : Nat) (stage : Stage) : View :=
  { v with roster := v.roster.modify id fun member => (stage, member.2) }

theorem busy_engage (v : View) : v.engage.Busy :=
  ⟨v.roster.length, (.starting, false), rfl, by simp [engage], by decide⟩

@[simp] theorem perform_roster (id : Nat) (v : View) (effect : Effect) :
    (v.perform id effect).roster = v.roster := by
  cases effect <;> rfl

theorem perform_slot {id : Nat} {v : View} {effect : Effect}
    (holds : v.slot = some id → effect ≠ .release) : (v.perform id effect).slot = v.slot := by
  cases effect with
  | release =>
    have other : v.slot ≠ some id := fun own => holds own rfl
    simp only [perform, if_neg other]
  | _ => rfl

theorem performAll_roster (id : Nat) (v : View) (effects : List Effect) :
    (v.performAll id effects).roster = v.roster := by
  induction effects generalizing v with
  | nil => rfl
  | cons effect effects ih => exact (ih _).trans (perform_roster id v effect)

theorem performAll_slot {id : Nat} {v : View} {effects : List Effect}
    (holds : v.slot = some id → .release ∉ effects) :
    (v.performAll id effects).slot = v.slot := by
  induction effects generalizing v with
  | nil => rfl
  | cons effect effects ih =>
    have same : (v.perform id effect).slot = v.slot := by
      apply perform_slot
      rintro own rfl
      exact holds own (List.mem_cons_self ..)
    refine (ih ?_).trans same
    intro own later
    exact holds (same ▸ own) (List.mem_cons_of_mem _ later)

theorem enter_self {v : View} {id : Nat} {stage : Stage} {cancelled : Bool}
    (listed : v.roster[id]? = some (stage, cancelled)) : v.enter id stage = v := by
  have same : v.roster.modify id (fun member => (stage, member.2)) = v.roster := by
    apply List.ext_getElem?
    intro j
    rw [List.getElem?_modify]
    by_cases own : id = j
    · subst own
      rw [listed]
      simp
    · simp [own]
  rw [enter, same]

theorem performAll_emit (id : Nat) (v : View) (events : List Event) :
    v.performAll id (events.map .emit) = v := by
  induction events with
  | nil => rfl
  | cons event events ih => exact ih

end View

namespace Link

theorem view_roster_getElem? (l : Link) (id : Nat) :
    l.view.roster[id]? = l.workers[id]?.map Worker.member :=
  List.getElem?_map ..

theorem isBusy_iff (l : Link) : l.isBusy = true ↔ l.view.Busy := by
  unfold isBusy
  constructor
  · intro busy
    split at busy
    · rename_i worker found
      obtain ⟨id, taken, here⟩ := Option.bind_eq_some_iff.mp found
      have listed : l.view.roster[id]? = some worker.member := by
        rw [view_roster_getElem?, here, Option.map_some]
      exact ⟨id, worker.member, taken, listed, bne_iff_ne.mp busy⟩
    · cases busy
  · rintro ⟨id, member, taken, listed, working⟩
    rw [view_roster_getElem?] at listed
    obtain ⟨worker, here, rfl⟩ := Option.map_eq_some_iff.mp listed
    have found : (l.slot.bind fun id => l.workers[id]?) = some worker :=
      Option.bind_eq_some_iff.mpr ⟨id, taken, here⟩
    rw [found]
    exact bne_iff_ne.mpr working

theorem connect_view_of_busy {l : Link} (busy : l.view.Busy) : l.connect.view = l.view := by
  rw [connect, if_pos (l.isBusy_iff.mpr busy)]

theorem connect_view_of_idle {l : Link} (idle : ¬ l.view.Busy) :
    l.connect.view = l.view.engage := by
  rw [connect, if_neg fun busy => idle (l.isBusy_iff.mp busy)]
  simp [view, View.engage, Worker.member, ConnectionLoop.start]

theorem dropQueue_view (l : Link) (n : Nat) : (l.dropQueue n).view = l.view := by
  have same := map_modify (f := Worker.member) (g := fun worker => { worker with queue := [] })
    (h := id) (fun _ => rfl) l.workers n
  rw [List.modify_id] at same
  simp only [view, dropQueue, same]

theorem setLoop_view (l : Link) (id : Nat) (loop : ConnectionLoop) :
    (l.setLoop id loop).view = l.view.enter id loop.stage := by
  have same := map_modify (f := Worker.member) (g := fun worker => { worker with loop })
    (h := fun member => (loop.stage, member.2)) (fun _ => rfl) l.workers id
  simp only [view, setLoop, View.enter, same]

theorem perform_view (l : Link) (id : Nat) (effect : Effect) :
    (l.perform id effect).1.view = l.view.perform id effect := by
  cases effect with
  | openOutbound =>
    have same := dropQueue_view (l.record id .opened) id
    exact congrArg (fun v : View => { v with outbound := some id }) same
  | closeOutbound =>
    have same := dropQueue_view (l.record id .ended) id
    exact congrArg (fun v : View => { v with outbound := none }) same
  | _ => rfl

theorem beginDisconnect_view {l : Link} {id : Nat} (taken : l.view.slot = some id) :
    l.beginDisconnect.view = l.view.tell id := by
  have own : l.slot = some id := taken
  have same := map_modify (f := Worker.member)
    (g := fun worker => { worker with cancelled := true })
    (h := fun member => (member.1, true)) (fun _ => rfl) l.workers id
  simp only [beginDisconnect, own, view, View.tell, record, same]

theorem beginDisconnect_of_free {l : Link} (free : l.slot = none) : l.beginDisconnect = l := by
  rw [beginDisconnect, free]

theorem enqueue?_view {l l' : Link} {frame : Frame} (queued : l.enqueue? frame = some l') :
    l'.view = l.view := by
  unfold enqueue? at queued
  split at queued
  · rename_i n phase outbound
    cases queued
    have same := map_modify (f := Worker.member)
      (g := fun worker => { worker with queue := worker.queue ++ [frame] }) (h := id)
      (fun _ => rfl) l.workers n
    rw [List.modify_id] at same
    simp only [view, record, same]
  · cases queued

/-! ### What is written down -/

structure SameRecords (l l' : Link) : Prop where
  bindings : l'.bindings = l.bindings
  caches : l'.caches = l.caches
  notes : l'.notes = l.notes

theorem connect_records (l : Link) : l.SameRecords l.connect := by
  unfold connect
  split <;> exact ⟨rfl, rfl, rfl⟩

theorem beginDisconnect_records (l : Link) : l.SameRecords l.beginDisconnect := by
  unfold beginDisconnect
  split <;> exact ⟨rfl, rfl, rfl⟩

theorem enqueue?_records {l l' : Link} {frame : Frame} (queued : l.enqueue? frame = some l') :
    l.SameRecords l' := by
  unfold enqueue? at queued
  split at queued
  · cases queued
    exact ⟨rfl, rfl, rfl⟩
  · cases queued

theorem perform_records (l : Link) (id : Nat) (effect : Effect) :
    l.SameRecords (l.perform id effect).1 := by
  cases effect <;> exact ⟨rfl, rfl, rfl⟩

end Link

theorem Client.answerSend_records (link : Link) (topic : Topic) (data : Json) :
    link.SameRecords (answerSend link topic data).1 := by
  unfold answerSend
  split
  next queued => exact Link.enqueue?_records queued
  next => exact ⟨rfl, rfl, rfl⟩

/-! ## What listeners change -/

namespace Client

theorem answer_view (request : ClientRequest) (link : Link) :
    (answer request link).1.view = link.view ∨
      ¬ link.view.Busy ∧ (answer request link).1.view = link.view.engage := by
  cases request with
  | connect =>
    by_cases busy : link.view.Busy
    · exact .inl (Link.connect_view_of_busy busy)
    · exact .inr ⟨busy, Link.connect_view_of_idle busy⟩
  | send topic data =>
    left
    change (answerSend link topic data).1.view = link.view
    unfold answerSend
    split
    · rename_i link' queued
      exact Link.enqueue?_view queued
    · rfl
  | note | isConnected | bind | tellBinding | cache => exact .inl rfl

theorem perform?_eq (limit id : Nat) (c : Client) (effect : Effect) :
    perform? limit id c effect =
      (c.host.perform id effect).2.elim (some { c with host := (c.host.perform id effect).1 })
        fun event => (Emitter.emit? answer limit { c with host := (c.host.perform id effect).1 }
          event).map Prod.fst := by
  unfold perform?
  obtain ⟨link, event⟩ := c.host.perform id effect
  cases event <;> rfl

theorem perform?_invariant {P : Link → Prop}
    (answers : ∀ request link, P link → P (answer request link).1)
    {limit id : Nat} {c c' : Client} {effect : Effect}
    (performed : perform? limit id c effect = some c') (after : P (c.host.perform id effect).1) :
    P c'.host := by
  rw [perform?_eq] at performed
  cases told : (c.host.perform id effect).2 with
  | none =>
    rw [told] at performed
    cases performed
    exact after
  | some event =>
    rw [told] at performed
    obtain ⟨⟨_, called⟩, delivered, same⟩ := Option.map_eq_some_iff.mp performed
    cases same
    exact Emitter.emit?_invariant answers limit _ _ _ _ delivered after

theorem performAll_invariant {P : List Effect → Link → Prop}
    (answers : ∀ effects request link, P effects link → P effects (answer request link).1)
    {limit id : Nat}
    (performs : ∀ effect effects link, P (effect :: effects) link →
      P effects (link.perform id effect).1)
    {effects : List Effect} {c c' : Client}
    (performed : effects.foldlM (perform? limit id) c = some c')
    (before : P effects c.host) : P [] c'.host := by
  induction effects generalizing c with
  | nil =>
    cases performed
    exact before
  | cons effect effects ih =>
    rw [List.foldlM_cons] at performed
    obtain ⟨middle, first, rest⟩ := Option.bind_eq_some_iff.mp performed
    exact ih rest (perform?_invariant (answers effects) first (performs effect effects _ before))

theorem answer_invariant {P : View → Prop} (engages : ∀ v, ¬ v.Busy → P v → P v.engage)
    (request : ClientRequest) (link : Link) (kept : P link.view) :
    P (answer request link).1.view := by
  rcases answer_view request link with same | ⟨idle, engaged⟩
  · rwa [same]
  · rw [engaged]
    exact engages _ idle kept

theorem perform?_view {P : View → Prop} (engages : ∀ v, ¬ v.Busy → P v → P v.engage)
    {limit id : Nat} {c c' : Client} {effect : Effect}
    (performed : perform? limit id c effect = some c')
    (after : P (c.host.view.perform id effect)) : P c'.host.view := by
  rw [← Link.perform_view] at after
  exact perform?_invariant (P := fun link => P link.view) (answer_invariant engages) performed after

theorem performAll_view {P : List Effect → View → Prop}
    (engages : ∀ effects v, ¬ v.Busy → P effects v → P effects v.engage) {limit id : Nat}
    (performs : ∀ effect effects v, P (effect :: effects) v → P effects (v.perform id effect))
    {effects : List Effect} {c c' : Client}
    (performed : effects.foldlM (perform? limit id) c = some c')
    (before : P effects c.host.view) : P [] c'.host.view := by
  refine performAll_invariant (P := fun effects link => P effects link.view) ?_ ?_ performed before
  · exact fun effects => answer_invariant (engages effects)
  · intro effect effects link kept
    rw [Link.perform_view]
    exact performs effect effects _ kept

/-- While the slot is taken by a worker at work, listeners change nothing. -/
theorem performAll_undisturbed {limit id owner : Nat} {member : Stage × Bool}
    {effects : List Effect} {c c' : Client}
    (performed : effects.foldlM (perform? limit id) c = some c')
    (taken : c.host.view.slot = some owner) (listed : c.host.view.roster[owner]? = some member)
    (working : member.1 ≠ .finished) (holds : owner = id → .release ∉ effects) :
    c'.host.view = c.host.view.performAll id effects := by
  refine (performAll_view (P := fun effects v => v.slot = some owner ∧
    v.roster[owner]? = some member ∧ (owner = id → .release ∉ effects) ∧
    v.performAll id effects = c.host.view.performAll id _) ?_ ?_ performed
    ⟨taken, listed, holds, rfl⟩).2.2.2
  · -- a listener that connects finds the owner at work
    rintro effects v idle ⟨taken, listed, _, _⟩
    exact absurd ⟨owner, member, taken, listed, working⟩ idle
  · rintro effect effects v ⟨taken, listed, holds, same⟩
    refine ⟨?_, ?_, ?_, same⟩
    · rw [View.perform_slot ?_, taken]
      rintro own rfl
      exact holds (Option.some.inj (taken.symm.trans own)) (List.mem_cons_self ..)
    · rwa [View.perform_roster]
    · intro own later
      exact holds own (List.mem_cons_of_mem _ later)

/-- If the slot is free in the end, no listener has connected. -/
theorem performAll_unclaimed {limit id : Nat} {effects : List Effect} {c c' : Client}
    (performed : effects.foldlM (perform? limit id) c = some c')
    (present : id < c.host.view.roster.length) (free : c.host.view.slot = none)
    (still : c'.host.view.slot = none) :
    c'.host.view = c.host.view.performAll id effects := by
  -- a listener that connects takes the slot for a worker with a new number, which no effect of
  -- this worker takes away again
  have outcome : id < c'.host.view.roster.length ∧
      (c'.host.view.slot = none ∧ c'.host.view = c.host.view.performAll id effects ∨
        ∃ owner, c'.host.view.slot = some owner ∧ owner ≠ id) := by
    refine performAll_view (P := fun effects v => id < v.roster.length ∧
      (v.slot = none ∧ v.performAll id effects = c.host.view.performAll id _ ∨
        ∃ owner, v.slot = some owner ∧ owner ≠ id)) ?_ ?_ performed ⟨present, .inl ⟨free, rfl⟩⟩
    · rintro effects v idle ⟨present, _⟩
      refine ⟨?_, .inr ⟨v.roster.length, rfl, by omega⟩⟩
      simp only [View.engage, List.length_append]
      omega
    · rintro effect effects v ⟨present, outcome⟩
      refine ⟨by rwa [View.perform_roster], ?_⟩
      rcases outcome with ⟨free, same⟩ | ⟨owner, taken, other⟩
      · left
        refine ⟨?_, same⟩
        rw [View.perform_slot (by rw [free]; rintro ⟨⟩), free]
      · right
        refine ⟨owner, ?_, other⟩
        rw [View.perform_slot ?_, taken]
        intro own
        exact absurd (Option.some.inj (taken.symm.trans own)) other
  obtain ⟨_, ⟨_, same⟩ | ⟨owner, taken, _⟩⟩ := outcome
  · exact same
  · cases still.symm.trans taken

/-! ## Waking a worker -/

theorem wake?_absent {limit id : Nat} {c c' : Client} {signal : Signal}
    (absent : c.host.view.roster[id]? = none) (woken : wake? limit id c signal = some c') :
    c' = c := by
  rw [Link.view_roster_getElem?, Option.map_eq_none_iff] at absent
  unfold wake? at woken
  rw [absent] at woken
  cases woken
  rfl

theorem wake?_view {limit id : Nat} {c c' : Client} {signal : Signal} {stage : Stage}
    {cancelled : Bool} (listed : c.host.view.roster[id]? = some (stage, cancelled))
    (woken : wake? limit id c signal = some c') :
    ∃ backoff d,
      let polled := ConnectionLoop.poll cancelled c.host.clock ⟨stage, backoff⟩ signal
      polled.2.foldlM (perform? limit id) c = some d ∧
        c'.host.view = d.host.view.enter id polled.1.stage := by
  rw [Link.view_roster_getElem?] at listed
  obtain ⟨⟨⟨stage, backoff⟩, cancelled, queue⟩, here, same⟩ := Option.map_eq_some_iff.mp listed
  cases same
  unfold wake? at woken
  rw [here] at woken
  obtain ⟨d, performed, same⟩ := Option.map_eq_some_iff.mp woken
  cases same
  exact ⟨backoff, d, performed, Link.setLoop_view d.host id _⟩

theorem wake?_cases {limit id : Nat} {c c' : Client} {signal : Signal}
    (woken : wake? limit id c signal = some c') :
    c' = c ∨ ∃ stage cancelled backoff d, c.host.view.roster[id]? = some (stage, cancelled) ∧
      let polled := ConnectionLoop.poll cancelled c.host.clock ⟨stage, backoff⟩ signal
      polled.2.foldlM (perform? limit id) c = some d ∧
        c'.host.view = d.host.view.enter id polled.1.stage := by
  cases listed : c.host.view.roster[id]? with
  | none => exact .inl (wake?_absent listed woken)
  | some member =>
    obtain ⟨stage, cancelled⟩ := member
    obtain ⟨backoff, d, performed, entered⟩ := wake?_view listed woken
    exact .inr ⟨stage, cancelled, backoff, d, rfl, performed, entered⟩

theorem writeNext?_cases (limit id : Nat) (c : Client) :
    writeNext? limit id c = some c ∨ ∃ workers frame,
      let c₁ : Client := { c with host := { c.host with workers } }
      c₁.host.view = c.host.view ∧
        writeNext? limit id c = wake? limit id c₁ (.outbound frame) := by
  unfold writeNext?
  split
  · rename_i loop cancelled frame queue here
    split
    · refine .inr ⟨_, frame, ?_, rfl⟩
      have member : (c.host.workers.map Worker.member)[id]? =
          some (Worker.member ⟨loop, cancelled, queue⟩) := by
        rw [List.getElem?_map, here]
        rfl
      obtain ⟨bound, listed⟩ := List.getElem?_eq_some_iff.mp member
      rw [Link.view, List.map_set, ← listed, List.set_getElem_self]
      rfl
    · exact .inl rfl
  · exact .inl rfl

theorem writeNext?_wake {limit id : Nat} {c c' : Client}
    (written : writeNext? limit id c = some c') :
    c' = c ∨ ∃ workers frame,
      let c₁ : Client := { c with host := { c.host with workers } }
      c₁.host.view = c.host.view ∧ wake? limit id c₁ (.outbound frame) = some c' := by
  rcases writeNext?_cases limit id c with same | ⟨workers, frame, same, woken⟩
  · exact .inl (Option.some.inj (written.symm.trans same))
  · exact .inr ⟨workers, frame, same, woken.symm.trans written⟩

end Client

/-! ## Results -/

namespace Client

/-- Deliveries have results, and they keep what neither hangs on the link nor gets lost with a
listener that goes. -/
structure Answers (limit : Nat) (P : Client → Prop) : Prop where
  withHost : ∀ {c : Client} (link : Link), P c → P { c with host := link }
  unsubscribe : ∀ {c : Client} (channel : Channel) (target : Target), P c →
    P (c.unsubscribe channel target).1
  clear : ∀ {c : Client}, P c → P c.clear
  deliver : ∀ {c : Client} (event : Event), P c →
    ∃ c' called, c.emit? answer limit event = some (c', called) ∧ P c'

theorem answers_silent {limit : Nat} (positive : 0 < limit) :
    Answers limit fun c : Client => c.Silent where
  withHost := fun _ silent => silent
  unsubscribe := fun channel target silent => Emitter.unsubscribe_silent silent channel target
  clear := fun _ => rfl
  deliver := fun event silent =>
    (Emitter.emit?_silent answer silent positive event).imp fun _ told => ⟨0, told⟩

namespace Answers

variable {limit : Nat} {P : Client → Prop} {c : Client} (answers : Answers limit P) (holds : P c)
include answers holds

theorem perform? (id : Nat) (effect : Effect) :
    ∃ c', Client.perform? limit id c effect = some c' ∧ P c' := by
  rw [perform?_eq]
  cases (c.host.perform id effect).2 with
  | none => exact ⟨_, rfl, answers.withHost _ holds⟩
  | some event =>
    obtain ⟨c', called, delivered, still⟩ := answers.deliver event (answers.withHost _ holds)
    exact ⟨c', Option.map_eq_some_iff.mpr ⟨_, delivered, rfl⟩, still⟩

theorem performAll (id : Nat) (effects : List Effect) :
    ∃ c', effects.foldlM (Client.perform? limit id) c = some c' ∧ P c' :=
  foldlM_returns (fun _ effect _ holds => answers.perform? holds id effect) holds

theorem wake? (id : Nat) (signal : Signal) :
    ∃ c', Client.wake? limit id c signal = some c' ∧ P c' := by
  unfold Client.wake?
  split
  · exact ⟨c, rfl, holds⟩
  · rename_i worker _
    obtain ⟨last, performed, still⟩ := answers.performAll holds id
      (worker.loop.poll worker.cancelled c.host.clock signal).2
    exact ⟨_, Option.map_eq_some_iff.mpr ⟨last, performed, rfl⟩, answers.withHost _ still⟩

theorem writeNext? (id : Nat) : ∃ c', Client.writeNext? limit id c = some c' ∧ P c' := by
  rcases writeNext?_cases limit id c with same | ⟨workers, frame, -, woken⟩
  · exact ⟨c, same, holds⟩
  · rw [woken]
    exact answers.wake? (answers.withHost _ holds) id _

theorem send? (topic : Topic) (data : Json) :
    ∃ c' queued, c.send? limit topic data = some (c', queued) ∧ P c' := by
  have asked : ∃ c' reply, c.ask? answer limit (.send topic data) = some (c', reply) ∧ P c' := by
    unfold Emitter.ask? Emitter.askWith?
    split
    rename_i link reply event _
    cases event with
    | none => exact ⟨_, reply, rfl, answers.withHost link holds⟩
    | some event =>
      obtain ⟨c', called, delivered, still⟩ := answers.deliver event (answers.withHost link holds)
      exact ⟨c', reply, Option.map_eq_some_iff.mpr ⟨_, delivered, rfl⟩, still⟩
  obtain ⟨c', reply, asked, still⟩ := asked
  exact ⟨c', _, Option.map_eq_some_iff.mpr ⟨_, asked, rfl⟩, still⟩

end Answers

end Client

end ControlPanel
