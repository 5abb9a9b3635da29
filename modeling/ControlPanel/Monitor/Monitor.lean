import ControlPanel.Monitor.Watch

/-!
# The monitor

The monitor asks the backend for its status, then watches the realtime connection until it is told
to stop or the client has given up. It then writes down which topics it has seen, drops what it has
attached to the client, and shuts the client down, for which it waits until the connection is
closed. What it does from one wait to the next is one move, as it is for the workers of the client.
-/

namespace ControlPanel

/-- How the loop of a monitor has ended: the number of attempts if the client has given up, how
many events had been emitted and how many notes written by then, and what was seen. -/
structure Conclusion where
  surrender : Option Nat
  heard : Nat
  noted : Nat
  summary : List Notice

/-- A monitor at work. Once its loop has ended it may wait for a worker to finish. -/
structure Monitor where
  settings : MonitorSettings
  status : Except ApiError SystemStatus
  watch : Watch
  isTold : Bool
  conclusion : Option Conclusion
  awaited : Option Nat
  hasReturned : Bool

/-- What the monitor says if the client has given up. -/
def Conclusion.failure (attempts : Nat) : String :=
  "Realtime connection could not be restored after " ++ Nat.repr attempts ++ " attempts"

namespace Monitor

def start (settings : MonitorSettings) (clock : Int) (status : Except ApiError SystemStatus) :
    Monitor where
  settings
  status
  watch := .start (.start settings.realtime clock)
  isTold := false
  conclusion := none
  awaited := none
  hasReturned := false

def client (m : Monitor) : Client := m.watch.client

def withClient (m : Monitor) (client : Client) : Monitor :=
  { m with watch := { m.watch with client } }

def hasSurrendered (m : Monitor) : Bool := Watch.hasSurrendered m.client.host.notes

/-- Ends the loop and begins to shut the client down. -/
def conclude (m : Monitor) (surrender : Option Nat) : Monitor :=
  let released := m.watch.release
  { m.withClient released.beginDisconnect with
    conclusion :=
      some ⟨surrender, m.client.emitted.length, m.client.host.notes.length, m.watch.summary⟩
    awaited := released.host.slot }

def mayFinish (m : Monitor) : Bool :=
  m.conclusion.isSome && m.awaited.all fun id =>
    m.client.host.workers[id]?.any fun worker => worker.loop.stage = .finished

def finish (m : Monitor) : Monitor :=
  let closed := if m.awaited.isSome then m.client.finishDisconnect else m.client
  { m.withClient closed.clear with awaited := none, hasReturned := true }

def statusNotice : Except ApiError SystemStatus → Notice
  | .ok status => .status status
  | .error error => .statusUnavailable error

def opening (m : Monitor) : List Notice := [.started m.settings, statusNotice m.status]

def closing (c : Conclusion) : List Notice :=
  (if c.surrender.isSome then [] else [.shutdownRequested]) ++ c.summary

def log (m : Monitor) : List Notice :=
  let notes := m.client.host.notes
  match m.conclusion with
  | none => m.opening ++ Watch.notices notes
  | some c => m.opening ++ Watch.notices (notes.take c.noted) ++ closing c ++
      Watch.notices (notes.drop c.noted)

/-! ## Moves -/

/-- What happens to a monitor: it is told to stop, its loop ends for this reason or because the
client has given up, it returns, and meanwhile time passes and signals wake the client's workers. -/
inductive Move where
  | tell
  | stop
  | surrender
  | finish
  | wait (now : Int)
  | wake (id : Nat) (signal : Signal)

/-- One move. What cannot happen changes nothing; there is no result if deliveries nest too deep. -/
def step? (limit : Nat) (m : Monitor) (move : Move) : Option Monitor :=
  if m.hasReturned then some m
  else match move with
    | .tell => some { m with isTold := true }
    | .stop => some (if m.isTold && m.conclusion.isNone then m.conclude none else m)
    | .surrender =>
      some (if m.hasSurrendered && m.conclusion.isNone then
        m.conclude (some m.settings.realtime.reconnect.maxAttempts) else m)
    | .finish => some (if m.mayFinish then m.finish else m)
    | .wait now => some (m.withClient { m.client with host := { m.client.host with clock := now } })
    | .wake id signal => (m.client.wake? limit id signal).map m.withClient

def run? (limit : Nat) (m : Monitor) (moves : List Move) : Option Monitor :=
  moves.foldlM (step? limit) m

end Monitor

end ControlPanel
