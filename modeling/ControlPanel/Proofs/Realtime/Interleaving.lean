import ControlPanel.Proofs.Realtime.View

/-!
# Handles, listeners and loops in turn

A `SharedClient` is a client in the hands of several parties. Each action of one of them is one
step, and a disconnect is two: the loop is told to stop, and later, when it has finished, the rest
is done. `SharedClient.Passage` says once what an action can do.
-/

namespace ControlPanel

/-! ## Taking turns -/

/-- A client, and the workers whose end a disconnect still waits for. -/
structure SharedClient where
  client : Client
  awaited : List Nat

namespace SharedClient

/-- What one of the parties does without a break. -/
inductive Action where
  | connect
  | disconnect
  | finishDisconnect (id : Nat)
  | send (topic : Topic) (data : Json)
  | subscribe (channel : Channel) (name : String) (listener : Listener ClientRequest)
  | unsubscribe (channel : Channel) (target : Target)
  | clear
  | wait (now : Int)
  | wake (id : Nat) (signal : Signal)
  | writeNext (id : Nat)

def start (settings : RealtimeSettings) (clock : Int) : SharedClient :=
  ⟨.start settings clock, []⟩

def view (u : SharedClient) : View := u.client.host.view

def mayFinish (u : SharedClient) (id : Nat) : Bool :=
  u.awaited.contains id &&
    u.client.host.workers[id]?.any fun worker => worker.loop.stage = .finished

def step? (limit : Nat) (u : SharedClient) : Action → Option SharedClient
  | .connect => some { u with client := u.client.connect }
  | .disconnect => some ⟨u.client.beginDisconnect, u.awaited ++ u.client.host.slot.toList⟩
  | .finishDisconnect id =>
    some (if u.mayFinish id then ⟨u.client.finishDisconnect, u.awaited.erase id⟩ else u)
  | .send topic data =>
    (u.client.send? limit topic data).map fun sent => { u with client := sent.1 }
  | .subscribe channel name listener =>
    some { u with client := (u.client.subscribe channel name listener).1 }
  | .unsubscribe channel target =>
    some { u with client := (u.client.unsubscribe channel target).1 }
  | .clear => some { u with client := u.client.clear }
  | .wait now => some { u with client.host.clock := now }
  | .wake id signal => (u.client.wake? limit id signal).map fun client => { u with client }
  | .writeNext id => (u.client.writeNext? limit id).map fun client => { u with client }

def run? (limit : Nat) (u : SharedClient) (actions : List Action) : Option SharedClient :=
  actions.foldlM (step? limit) u

theorem run?_cons_iff {limit : Nat} {u u' : SharedClient} {action : Action}
    {actions : List Action} : u.run? limit (action :: actions) = some u' ↔
      ∃ next, u.step? limit action = some next ∧ next.run? limit actions = some u' := by
  rw [run?, List.foldlM_cons]
  exact Option.bind_eq_some_iff

/-- No new worker is started while a disconnect waits for the one before. -/
def Quiet (u : SharedClient) : Prop := u.awaited ≠ [] → u.client.host.slot = none

def QuietRun (limit : Nat) (u : SharedClient) : List Action → Prop
  | [] => u.Quiet
  | action :: actions =>
    u.Quiet ∧ ∀ next, u.step? limit action = some next → QuietRun limit next actions

theorem QuietRun.quiet {limit : Nat} {u : SharedClient} {actions : List Action}
    (run : QuietRun limit u actions) : u.Quiet := by
  cases actions with
  | nil => exact run
  | cons => exact run.1

/-! ## What an action can do -/

inductive Passage (limit : Nat) (u u' : SharedClient) : Prop
  | stay (same : u'.view = u.view) (waits : u'.awaited = u.awaited)
  | engage (idle : ¬ u.view.Busy) (engaged : u'.view = u.view.engage)
      (waits : u'.awaited = u.awaited)
  | tell (id : Nat) (taken : u.view.slot = some id) (told : u'.view = u.view.tell id)
      (waits : u'.awaited = u.awaited ++ [id])
  | finish (id : Nat) (cancelled : Bool) (waited : id ∈ u.awaited)
      (listed : u.view.roster[id]? = some (.finished, cancelled)) (closed : u'.view = u.view.close)
      (waits : u'.awaited = u.awaited.erase id)
  | wake (id : Nat) (signal : Signal) (c : Client) (same : c.host.view = u.view)
      (woken : c.wake? limit id signal = some u'.client) (waits : u'.awaited = u.awaited)

theorem mayFinish_iff (u : SharedClient) (id : Nat) :
    u.mayFinish id = true ↔
      id ∈ u.awaited ∧ ∃ cancelled, u.view.roster[id]? = some (.finished, cancelled) := by
  rw [mayFinish, Bool.and_eq_true, List.contains_iff_mem, Option.any_eq_true]
  refine and_congr_right fun _ => ?_
  rw [view, Link.view_roster_getElem?]
  constructor
  · rintro ⟨worker, here, finished⟩
    refine ⟨worker.cancelled, ?_⟩
    rw [here, Option.map_some, Worker.member, of_decide_eq_true finished]
  · rintro ⟨cancelled, listed⟩
    obtain ⟨worker, here, same⟩ := Option.map_eq_some_iff.mp listed
    exact ⟨worker, here, decide_eq_true (congrArg Prod.fst same)⟩

theorem send?_view {limit : Nat} {c c' : Client} {topic : Topic} {data : Json} {queued : Bool}
    (sent : c.send? limit topic data = some (c', queued)) :
    c'.host.view = c.host.view ∨
      ¬ c.host.view.Busy ∧ c'.host.view = c.host.view.engage := by
  obtain ⟨⟨_, _⟩, asked, same⟩ := Option.map_eq_some_iff.mp sent
  cases same
  refine Emitter.ask?_invariant (P := fun link => link.view = c.host.view ∨
    ¬ c.host.view.Busy ∧ link.view = c.host.view.engage) ?_ asked (.inl rfl)
  intro request link kept
  rcases Client.answer_view request link with same | ⟨idle, engaged⟩
  · rwa [same]
  · rcases kept with same | ⟨_, same⟩
    · exact .inr ⟨same ▸ idle, same ▸ engaged⟩
    · exact absurd (same ▸ View.busy_engage _) idle

theorem step?_passage {limit : Nat} {u u' : SharedClient} {action : Action}
    (stepped : u.step? limit action = some u') : Passage limit u u' := by
  cases action with
  | connect =>
    cases stepped
    by_cases busy : u.view.Busy
    · exact .stay (Link.connect_view_of_busy busy) rfl
    · exact .engage busy (Link.connect_view_of_idle busy) rfl
  | disconnect =>
    cases stepped
    cases taken : u.client.host.slot with
    | none =>
      exact .stay (congrArg Link.view (Link.beginDisconnect_of_free taken)) (List.append_nil _)
    | some id => exact .tell id taken (Link.beginDisconnect_view taken) rfl
  | finishDisconnect id =>
    cases stepped
    split
    · rename_i may
      obtain ⟨waited, cancelled, listed⟩ := (u.mayFinish_iff id).mp may
      exact .finish id cancelled waited listed rfl rfl
    · exact .stay rfl rfl
  | send topic data =>
    obtain ⟨⟨c, queued⟩, sent, same⟩ := Option.map_eq_some_iff.mp stepped
    cases same
    rcases send?_view sent with same | ⟨idle, engaged⟩
    · exact .stay same rfl
    · exact .engage idle engaged rfl
  | subscribe | clear | wait =>
    cases stepped
    exact .stay rfl rfl
  | unsubscribe channel target =>
    cases stepped
    exact .stay (congrArg Link.view (Emitter.unsubscribe_host u.client channel target)) rfl
  | wake id signal =>
    obtain ⟨c, woken, same⟩ := Option.map_eq_some_iff.mp stepped
    cases same
    exact .wake id signal u.client rfl woken rfl
  | writeNext id =>
    obtain ⟨c, written, same⟩ := Option.map_eq_some_iff.mp stepped
    cases same
    rcases Client.writeNext?_wake written with rfl | ⟨workers, frame, same, woken⟩
    · exact .stay rfl rfl
    · exact .wake id (.outbound frame) _ same woken rfl

theorem run?_invariant {P : SharedClient → Prop} {limit : Nat}
    (keeps : ∀ u u', Passage limit u u' → P u → P u') (actions : List Action)
    {u u' : SharedClient} (ran : u.run? limit actions = some u') (before : P u) : P u' :=
  foldlM_invariant (fun u _ u' stepped => keeps u u' (step?_passage stepped)) ran before

end SharedClient

/-! ## Results -/

namespace SharedClient

theorem step?_returns {P : Client → Prop} {limit : Nat} {u : SharedClient} {action : Action}
    (answers : Client.Answers limit P) (holds : P u.client)
    (subscribes : ∀ channel name listener, action = .subscribe channel name listener →
      P (u.client.subscribe channel name listener).1) :
    ∃ u', u.step? limit action = some u' ∧ P u'.client := by
  cases action with
  | connect | disconnect | wait => exact ⟨_, rfl, answers.withHost _ holds⟩
  | clear => exact ⟨_, rfl, answers.clear holds⟩
  | finishDisconnect id =>
    refine ⟨_, rfl, ?_⟩
    split
    · exact answers.withHost _ holds
    · exact holds
  | send topic data =>
    obtain ⟨c, queued, sent, still⟩ := answers.send? holds topic data
    exact ⟨_, Option.map_eq_some_iff.mpr ⟨_, sent, rfl⟩, still⟩
  | subscribe channel name listener => exact ⟨_, rfl, subscribes channel name listener rfl⟩
  | unsubscribe channel target => exact ⟨_, rfl, answers.unsubscribe channel target holds⟩
  | wake id signal =>
    obtain ⟨c, woken, still⟩ := answers.wake? holds id signal
    exact ⟨_, Option.map_eq_some_iff.mpr ⟨c, woken, rfl⟩, still⟩
  | writeNext id =>
    obtain ⟨c, written, still⟩ := answers.writeNext? holds id
    exact ⟨_, Option.map_eq_some_iff.mpr ⟨c, written, rfl⟩, still⟩

theorem run?_silent {limit : Nat} {u : SharedClient} (actions : List Action)
    (silent : u.client.Silent) (positive : 0 < limit)
    (mute : ∀ channel name listener, .subscribe channel name listener ∉ actions) :
    ∃ u', u.run? limit actions = some u' := by
  have returns (u : SharedClient) (action : Action) (listed : action ∈ actions)
      (silent : u.client.Silent) : ∃ u', u.step? limit action = some u' ∧ u'.client.Silent := by
    refine step?_returns (Client.answers_silent positive) silent ?_
    rintro channel name listener rfl
    exact absurd listed (mute channel name listener)
  obtain ⟨u', ran, -⟩ := foldlM_returns returns silent
  exact ⟨u', ran⟩

end SharedClient

end ControlPanel
