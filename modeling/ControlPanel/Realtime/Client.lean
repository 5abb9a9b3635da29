import ControlPanel.Listeners.Emitter
import ControlPanel.Realtime.Link

/-!
# The realtime client

A client keeps one connection open, delivers what comes in to its listeners, and sends frames
while the connection is open. Nothing it does fails: what goes wrong is told to listeners.
Listeners may call back into the client, so whatever emits an event takes the limit on nested
deliveries and has no result if it is passed.
-/

namespace ControlPanel

inductive ClientRequest where
  | connect
  | send (topic : Topic) (data : Json)
  | note (name : String) (note : Note)
  | isConnected
  | bind
  | tellBinding (id : Nat) (news : BindingNews)
  | cache (id limit : Nat) (topic : Topic) (payload : Payload)

abbrev Client := Emitter ClientRequest Link

namespace Client

def start (settings : RealtimeSettings) (clock : Int) : Client :=
  Emitter.start (Link.start settings clock)

/-- Sends a frame: queued while the connection is open, and else dropped with an error event. The
answer is 1 or 0. -/
def answerSend (link : Link) (topic : Topic) (data : Json) : Link × Nat × Option Event :=
  match link.enqueue? ⟨topic, data, link.clock⟩ with
  | some link => (link, 1, none)
  | none => (link, 0, some (.error (.notConnected topic)))

def answer : Host ClientRequest Link
  | .connect, link => (link.connect, 0, none)
  | .send topic data, link => answerSend link topic data
  | .note name note, link => ({ link with notes := link.notes ++ [(name, note)] }, 0, none)
  | .isConnected, link => (link, (decide (link.phase = .opened)).toNat, none)
  | .bind, link =>
    let cell : BindingCell := ⟨⟨link.phase = .opened, none⟩, 0⟩
    ({ link with bindings := link.bindings ++ [cell] }, link.bindings.length, none)
  | .tellBinding id news, link =>
    let bindings := link.bindings.modify id fun cell =>
      ⟨cell.status.update news, cell.updates + 1⟩
    ({ link with bindings }, 0, none)
  | .cache id limit topic payload, link =>
    let caches := link.caches.modify id fun contents => contents.record limit topic payload
    ({ link with caches }, 0, none)

/-! ## Calls -/

def connect (c : Client) : Client := { c with host := c.host.connect }

/-- The first part of a disconnect: the loop is told to stop. -/
def beginDisconnect (c : Client) : Client := { c with host := c.host.beginDisconnect }

/-- The second part, once the loop has finished. -/
def finishDisconnect (c : Client) : Client := { c with host := c.host.finishDisconnect }

def isConnected (c : Client) : Bool := c.host.phase = .opened

/-- Sends a frame; the answer is whether it was queued. -/
def send? (limit : Nat) (c : Client) (topic : Topic) (data : Json) : Option (Client × Bool) :=
  (c.ask? answer limit (.send topic data)).map fun (c, queued) => (c, queued = 1)

def text (c : Client) : String :=
  "WebSocketClient \x7b url: " ++ Text.quoted c.host.settings.address ++ ", state: " ++
    c.host.phase.label ++ ", emitter: " ++ c.registry.text ++ " \x7d"

/-! ## The connection loops -/

def perform? (limit id : Nat) (c : Client) (effect : Effect) : Option Client :=
  let (link, event) := c.host.perform id effect
  let c := { c with host := link }
  match event with
  | none => some c
  | some event => (c.emit? answer limit event).map Prod.fst

/-- Wakes a worker's loop with a signal. The loop is at its next wait only when all its effects are
done; a listener that calls back meanwhile finds it at work. -/
def wake? (limit id : Nat) (c : Client) (signal : Signal) : Option Client :=
  match c.host.workers[id]? with
  | none => some c
  | some worker =>
    let (loop, effects) := worker.loop.poll worker.cancelled c.host.clock signal
    (effects.foldlM (perform? limit id) c).map fun c => { c with host := c.host.setLoop id loop }

def writeNext? (limit id : Nat) (c : Client) : Option Client :=
  match c.host.workers[id]? with
  | some ⟨loop, cancelled, frame :: queue⟩ =>
    if loop.stage = .session then
      let workers := c.host.workers.set id ⟨loop, cancelled, queue⟩
      wake? limit id { c with host := { c.host with workers } } (.outbound frame)
    else some c
  | _ => some c

end Client

end ControlPanel
