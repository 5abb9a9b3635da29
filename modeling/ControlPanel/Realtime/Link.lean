import ControlPanel.Realtime.Cache
import ControlPanel.Realtime.Loop
import ControlPanel.Settings.Basic

/-!
# The state of a realtime client

What the handles of a client and its connection loops share: the phase, which loop the client
calls its own, and where frames to be sent are queued. A loop that is told to stop goes on for a
while, so there may be several; each is a `Worker`.
-/

namespace ControlPanel

/-- A connection loop, whether it is told to stop, and the frames queued for its connection. -/
structure Worker where
  loop : ConnectionLoop
  cancelled : Bool
  queue : List Frame

/-- What happens to a worker: it dials, its connection opens, a frame is accepted for it, a frame
or a heartbeat is written to it, it is told to stop, it hangs up, and its connection has ended. -/
inductive Incident where
  | dial
  | opened
  | accepted (frame : Frame)
  | written (frame : Frame)
  | beat (frame : Frame)
  | cancelled
  | hangUp
  | ended

structure BindingStatus where
  connected : Bool
  lastError : Option LinkError
  deriving DecidableEq, Repr

inductive BindingNews where
  | opened
  | lost
  | failed (error : LinkError)

structure BindingCell where
  status : BindingStatus
  updates : Nat

inductive Note where
  | event (event : Event)
  | value (value : Json)
  | sent (accepted : Bool)
  | removed (count : Nat)

/-- The workers are numbered in the order of their start; `slot` is the client's own one and
`outbound` the one whose connection takes frames. The history tells what has happened to which
worker. -/
structure Link where
  settings : RealtimeSettings
  clock : Int
  phase : Phase
  slot : Option Nat
  outbound : Option Nat
  attempts : Nat
  workers : List Worker
  history : List (Nat × Incident)
  bindings : List BindingCell
  caches : List CacheContents
  notes : List (String × Note)

namespace BindingStatus

def update (s : BindingStatus) : BindingNews → BindingStatus
  | .opened => ⟨true, none⟩
  | .lost => { s with connected := false }
  | .failed error => { s with lastError := some error }

end BindingStatus

namespace Link

def start (settings : RealtimeSettings) (clock : Int) : Link where
  settings
  clock
  phase := .closed
  slot := none
  outbound := none
  attempts := 0
  workers := []
  history := []
  bindings := []
  caches := []
  notes := []

def isBusy (l : Link) : Bool :=
  match l.slot.bind fun id => l.workers[id]? with
  | some worker => worker.loop.stage != .finished
  | none => false

def connect (l : Link) : Link :=
  if l.isBusy then l
  else
    { l with
      phase := .connecting
      slot := some l.workers.length
      attempts := 0
      workers := l.workers ++ [⟨.start l.settings.reconnect, false, []⟩] }

def record (l : Link) (id : Nat) (incident : Incident) : Link :=
  { l with history := l.history ++ [(id, incident)] }

/-- Gives up the client's own loop and tells it to stop. -/
def beginDisconnect (l : Link) : Link :=
  match l.slot with
  | none => l
  | some id =>
    { l.record id .cancelled with
      slot := none
      workers := l.workers.modify id fun worker => { worker with cancelled := true } }

/-- What is left to do once the loop that was given up has finished. -/
def finishDisconnect (l : Link) : Link := { l with outbound := none, phase := .closed }

/-- Queues a frame for the open connection, if there is one. -/
def enqueue? (l : Link) (frame : Frame) : Option Link :=
  match l.phase, l.outbound with
  | .opened, some id =>
    some { l.record id (.accepted frame) with
      workers := l.workers.modify id fun worker =>
        { worker with queue := worker.queue ++ [frame] } }
  | _, _ => none

def setLoop (l : Link) (id : Nat) (loop : ConnectionLoop) : Link :=
  { l with workers := l.workers.modify id fun worker => { worker with loop } }

def dropQueue (l : Link) (id : Nat) : Link :=
  { l with workers := l.workers.modify id fun worker => { worker with queue := [] } }

/-- What an effect of a worker's loop does to the state, and the event to emit. -/
def perform (l : Link) (id : Nat) : Effect → Link × Option Event
  | .phase phase => ({ l with phase }, none)
  | .attempts attempts => ({ l with attempts }, none)
  | .openOutbound => ({ (l.record id .opened).dropQueue id with outbound := some id }, none)
  | .closeOutbound => ({ (l.record id .ended).dropQueue id with outbound := none }, none)
  | .release => ({ l with slot := if l.slot = some id then none else l.slot }, none)
  | .emit event => (l, some event)
  | .dial => (l.record id .dial, none)
  | .write frame => (l.record id (.written frame), none)
  | .beat frame => (l.record id (.beat frame), none)
  | .hangUp => (l.record id .hangUp, none)

end Link

end ControlPanel
