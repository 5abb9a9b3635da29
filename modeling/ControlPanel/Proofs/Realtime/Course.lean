import ControlPanel.Realtime.Loop

/-!
# Runs of one connection loop

`ConnectionLoop.poll_move` says once what a loop can do when it is woken: it makes one of the moves
of `Move`. A `Course` is a loop on its way with everything it has done so far; it may be told to
stop at any wait, and `Course.run_invariant` carries what every move keeps through a whole run.
-/

namespace ControlPanel

namespace ConnectionLoop

/-! ## Moves -/

def parting (noticed : List Effect) (cause : Option String) : List Effect :=
  noticed ++ .closeOutbound :: .phase .closed ::
    ((cause.map LinkError.transport).toList.map (fun error => .emit (.error error)) ++
      [.emit (.disconnected false)])

inductive Retry (backoff : Backoff) : ConnectionLoop → List Effect → Prop
  | again (attempt delay : Nat) (next : Backoff)
      (left : backoff.next? = some ((attempt, delay), next)) :
      Retry backoff ⟨.waiting, next⟩
        [.attempts attempt, .emit (.reconnecting attempt delay)]
  | never (spent : backoff.next? = none) :
      Retry backoff ⟨.finished, backoff⟩ [.release, .emit (.reconnectFailed backoff.attempts)]

inductive Move (cancelled : Bool) (now : Int) (backoff : Backoff) :
    Stage → ConnectionLoop → List Effect → Prop
  | rest (stage : Stage) : Move cancelled now backoff stage ⟨stage, backoff⟩ []
  | dial (stage : Stage) (idle : stage = .starting ∨ stage = .waiting) (go : cancelled = false) :
      Move cancelled now backoff stage ⟨.handshake, backoff⟩ [.phase .connecting, .dial]
  | stop (stage : Stage) (noticed : List Effect)
      (unconnected : stage = .starting ∧ noticed = [.phase .connecting] ∨
        (stage = .handshake ∨ stage = .waiting) ∧ noticed = [])
      (told : cancelled = true) :
      Move cancelled now backoff stage ⟨.finished, backoff⟩ (noticed ++ [.phase .closed])
  | connect (go : cancelled = false) :
      Move cancelled now backoff .handshake ⟨.session, backoff.reset⟩
        [.attempts 0, .openOutbound, .phase .opened, .emit .connected]
  | refuse (detail : String) (loop : ConnectionLoop) (effects : List Effect)
      (go : cancelled = false) (retry : Retry backoff loop effects) :
      Move cancelled now backoff .handshake loop
        (.phase .closed :: .emit (.error (.connection detail)) :: effects)
  | deliver (text : String) (go : cancelled = false) :
      Move cancelled now backoff .session ⟨.session, backoff⟩ ((deliveries now text).map .emit)
  | write (effect : Effect) (frame : Frame) (go : cancelled = false)
      (writing : effect = .write frame ∨ effect = .beat frame) :
      Move cancelled now backoff .session ⟨.writing, backoff⟩ [effect]
  | written : Move cancelled now backoff .writing ⟨.session, backoff⟩ []
  | lose (stage : Stage) (noticed : List Effect) (cause : Option String) (loop : ConnectionLoop)
      (effects : List Effect)
      (connected : stage = .session ∧ cancelled = false ∨ stage = .writing)
      (warned : noticed = [] ∨ noticed = [.phase .closing]) (retry : Retry backoff loop effects) :
      Move cancelled now backoff stage loop (parting noticed cause ++ effects)
  | hangUp (told : cancelled = true) :
      Move cancelled now backoff .session ⟨.closing, backoff⟩ [.phase .closing, .hangUp]
  | close : Move cancelled now backoff .closing ⟨.finished, backoff⟩
      [.closeOutbound, .phase .closed, .emit (.disconnected true)]

theorem retry_spec (backoff : Backoff) : Retry backoff (retry backoff).1 (retry backoff).2 := by
  unfold retry
  split
  · rename_i attempt delay next left
    exact .again attempt delay next left
  · rename_i spent
    exact .never spent

theorem lost_move {cancelled : Bool} {now : Int} {backoff : Backoff} {stage : Stage}
    {noticed : List Effect} (cause : Option String)
    (connected : stage = .session ∧ cancelled = false ∨ stage = .writing)
    (warned : noticed = [] ∨ noticed = [.phase .closing]) :
    Move cancelled now backoff stage (lost backoff (cause.map .transport)).1
      (noticed ++ (lost backoff (cause.map .transport)).2) := by
  have ended : lost backoff (cause.map .transport) =
      ((retry backoff).1, parting [] cause ++ (retry backoff).2) := by
    simp [lost, parting]
  have split : noticed ++ (parting [] cause ++ (retry backoff).2) =
      parting noticed cause ++ (retry backoff).2 := by
    simp [parting]
  rw [ended, split]
  exact .lose stage noticed cause _ _ connected warned (retry_spec backoff)

theorem receive_move (now : Int) (backoff : Backoff) (message : Inbound) :
    Move false now backoff .session (receive now backoff message).1
      (receive now backoff message).2 := by
  have here : Stage.session = .session ∧ false = false ∨ Stage.session = .writing := .inl ⟨rfl, rfl⟩
  cases message with
  | text text => exact .deliver text rfl
  | binary => exact .rest _
  | ping => exact .rest _
  | pong => exact .rest _
  | close => exact lost_move none here (.inr rfl)
  | broken detail => exact lost_move (some detail) here (.inl rfl)
  | ended => exact lost_move none here (.inl rfl)

theorem poll_move (cancelled : Bool) (now : Int) (loop : ConnectionLoop) (signal : Signal) :
    Move cancelled now loop.backoff loop.stage (loop.poll cancelled now signal).1
      (loop.poll cancelled now signal).2 := by
  obtain ⟨stage, backoff⟩ := loop
  cases stage with
  | starting =>
    cases cancelled with
    | true => exact .stop .starting [.phase .connecting] (.inl ⟨rfl, rfl⟩) rfl
    | false => exact .dial .starting (.inl rfl) rfl
  | handshake =>
    cases cancelled with
    | true => exact .stop .handshake [] (.inr ⟨.inl rfl, rfl⟩) rfl
    | false =>
      cases signal with
      | opened => exact .connect rfl
      | refused detail => exact .refuse detail _ _ rfl (retry_spec backoff)
      | _ => exact .rest _
  | session =>
    cases cancelled with
    | true => exact .hangUp rfl
    | false =>
      cases signal with
      | inbound message => exact receive_move now backoff message
      | outbound frame => exact .write (.write frame) frame rfl (.inl rfl)
      | tick => exact .write (.beat (.keepAlive now)) (.keepAlive now) rfl (.inr rfl)
      | _ => exact .rest _
  | writing =>
    cases signal with
    | written => exact .written
    | writeFailed detail => exact lost_move (some detail) (.inr rfl) (.inl rfl)
    | _ => exact .rest _
  | closing =>
    cases signal with
    | closeDone => exact .close
    | _ => exact .rest _
  | waiting =>
    cases cancelled with
    | true => exact .stop .waiting [] (.inr ⟨.inr rfl, rfl⟩) rfl
    | false =>
      cases signal with
      | elapsed => exact .dial .waiting (.inr rfl) rfl
      | _ => exact .rest _
  | finished => exact .rest _

/-- A loop that is told to stop has finished when its write is done, it has looked, and its
connection is closed. -/
theorem poll_told (now now' now'' : Int) (stage : Stage) (b b' b'' : Backoff) :
    (poll true now'' ⟨(poll true now' ⟨(poll true now ⟨stage, b⟩ .written).1.stage, b'⟩
      .look).1.stage, b''⟩ .closeDone).1.stage = .finished := by
  cases stage <;> rfl

end ConnectionLoop

/-! ## Runs -/

inductive Turn where
  | cancel
  | wake (now : Int) (signal : Signal)

structure Course where
  loop : ConnectionLoop
  cancelled : Bool
  effects : List Effect

def Effect.event? : Effect → Option Event
  | .emit event => some event
  | _ => none

def emitted (effects : List Effect) : List Event := effects.filterMap Effect.event?

theorem emitted_nil : emitted [] = [] := rfl

theorem emitted_append (effects effects' : List Effect) :
    emitted (effects ++ effects') = emitted effects ++ emitted effects' :=
  List.filterMap_append

theorem emitted_map_emit (events : List Event) : emitted (events.map .emit) = events := by
  rw [emitted, List.filterMap_map]
  exact List.filterMap_some

namespace Course

def start (policy : ReconnectPolicy) : Course := ⟨.start policy, false, []⟩

def turn (c : Course) : Turn → Course
  | .cancel => { c with cancelled := true }
  | .wake now signal =>
    let (loop, effects) := c.loop.poll c.cancelled now signal
    { c with loop, effects := c.effects ++ effects }

def run (policy : ReconnectPolicy) (turns : List Turn) : Course := turns.foldl turn (start policy)

def events (c : Course) : List Event := emitted c.effects

theorem foldl_turn_invariant {P : Course → Prop}
    (cancel : ∀ c, P c → P { c with cancelled := true })
    (move : ∀ c now loop effects, P c →
      ConnectionLoop.Move c.cancelled now c.loop.backoff c.loop.stage loop effects →
      P { c with loop, effects := c.effects ++ effects })
    (turns : List Turn) {c : Course} (start : P c) : P (turns.foldl turn c) := by
  induction turns generalizing c with
  | nil => exact start
  | cons t turns ih =>
    apply ih
    cases t with
    | cancel => exact cancel c start
    | wake now signal => exact move c now _ _ start (c.loop.poll_move c.cancelled now signal)

theorem run_invariant {P : Course → Prop} (policy : ReconnectPolicy) (start : P (.start policy))
    (cancel : ∀ c, P c → P { c with cancelled := true })
    (move : ∀ c now loop effects, P c →
      ConnectionLoop.Move c.cancelled now c.loop.backoff c.loop.stage loop effects →
      P { c with loop, effects := c.effects ++ effects })
    (turns : List Turn) : P (run policy turns) :=
  foldl_turn_invariant cancel move turns start

end Course

end ControlPanel
