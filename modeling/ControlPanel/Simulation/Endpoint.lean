import ControlPanel.Realtime.Client

/-!
# A scripted endpoint

An endpoint that does with each connection what a script says: refuse it, or accept it, deliver
some messages and end it in some way. `Play` runs a client against such an endpoint, one wake-up
after the other, and needs no clock: a wait is over when nothing else is left to do.
-/

namespace ControlPanel

inductive Ending where
  | stay
  | close
  | broken
  deriving DecidableEq, Repr

inductive Visit where
  | refuse
  | accept (messages : List Inbound) (ending : Ending)

/-- A script for the connections in order; those past its end are refused. An endpoint that is
not reachable sees no connection at all. -/
structure Endpoint where
  isReachable : Bool
  visits : List Visit

structure Mailbox where
  worker : Nat
  messages : List Inbound
  ending : Ending

structure Play where
  client : Client
  endpoint : Endpoint
  mailboxes : List Mailbox

namespace Ending

def messages : Ending → List Inbound
  | .stay => []
  | .close => [.close]
  | .broken => [.broken "connection reset"]

end Ending

namespace Play

/-! ## What has happened -/

def isDial : Incident → Bool
  | .dial => true
  | _ => false

def connections (p : Play) : Nat :=
  if p.endpoint.isReachable then p.client.host.history.countP fun entry => isDial entry.2
  else 0

def written (p : Play) : List Frame :=
  p.client.host.history.filterMap fun entry => match entry.2 with
    | .written frame | .beat frame => some frame
    | _ => none

def isKeepAlive (frame : Frame) : Bool :=
  match frame.topic, frame.data with
  | .heartbeat, .object [] => true
  | _, _ => false

def received (p : Play) : List Frame := p.written.filter fun frame => !isKeepAlive frame

def heartbeats (p : Play) : Nat := p.written.countP isKeepAlive

def surrenders (p : Play) : Nat :=
  p.client.host.workers.countP fun worker => worker.loop.stage = .finished && !worker.cancelled

/-! ## What happens next -/

def lastDial (history : List (Nat × Incident)) (worker : Nat) : Nat :=
  let dialled := (history.filter fun entry => isDial entry.2).map Prod.fst
  dialled.length - 1 - dialled.reverse.findIdx (· = worker)

def visit (p : Play) (worker : Nat) : Visit :=
  if p.endpoint.isReachable then
    p.endpoint.visits[lastDial p.client.host.history worker]?.getD .refuse
  else .refuse

def mailbox? (p : Play) (worker : Nat) : Option Mailbox :=
  p.mailboxes.find? fun m => m.worker = worker

def setMailbox (p : Play) (m : Mailbox) : Play :=
  { p with mailboxes := m :: p.mailboxes.filter fun other => other.worker != m.worker }

def nextMessage? (p : Play) (worker : Nat) : Option (Inbound × Play) :=
  (p.mailbox? worker).bind fun m =>
    match m.messages, m.ending.messages with
    | message :: rest, _ => some (message, p.setMailbox { m with messages := rest })
    | [], message :: rest => some (message, p.setMailbox ⟨worker, rest, .stay⟩)
    | [], [] => none

def shake (p : Play) (worker : Nat) : Signal × Play :=
  match p.visit worker with
  | .refuse => (.refused ("Failed to connect to " ++ p.client.host.settings.address), p)
  | .accept messages ending => (.opened, p.setMailbox ⟨worker, messages, ending⟩)

inductive Wake where
  | signal (signal : Signal)
  | queued
  | asleep

/-- Which workers are woken: all, or only those with an open connection. -/
inductive Haste where
  | all
  | openOnly
  deriving DecidableEq

def wakeFor (p : Play) (haste : Haste) (id : Nat) (worker : Worker) : Wake × Play :=
  match worker.loop.stage with
  | .session =>
    if worker.cancelled then (.signal .look, p)
    else match p.nextMessage? id with
      | some (message, p) => (.signal (.inbound message), p)
      | none => (if worker.queue.isEmpty then .asleep else .queued, p)
  | .writing => (.signal .written, p)
  | .closing => (.signal .closeDone, p)
  | .finished => (.asleep, p)
  | stage =>
    if haste = .openOnly then (.asleep, p)
    else if stage = .handshake && !worker.cancelled then
      let (signal, p) := p.shake id
      (.signal signal, p)
    else if stage = .waiting && !worker.cancelled then (.signal .elapsed, p)
    else (.signal .look, p)

/-- Wakes the first worker that has something to do; `none` if all are asleep. -/
def wakeFirst? (limit : Nat) (haste : Haste) (p : Play) :
    List (Worker × Nat) → Option (Option Play)
  | [] => none
  | (worker, id) :: rest =>
    match p.wakeFor haste id worker with
    | (.asleep, _) => wakeFirst? limit haste p rest
    | (.signal signal, p) =>
      some ((p.client.wake? limit id signal).map fun client => { p with client })
    | (.queued, p) => some ((p.client.writeNext? limit id).map fun client => { p with client })

/-- One wake-up. The outer result is missing if nothing is left to do, the inner one if deliveries
nest too deep. -/
def advance? (limit : Nat) (haste : Haste) (p : Play) : Option (Option Play) :=
  p.wakeFirst? limit haste p.client.host.workers.zipIdx

def wait? (worker : Worker) : Option Nat :=
  if worker.loop.stage = .waiting && !worker.cancelled then
    some (worker.loop.backoff.policy.delay worker.loop.backoff.attempts)
  else none

def wait (p : Play) : Option Nat := p.client.host.workers.findSome? wait?

end Play

end ControlPanel
