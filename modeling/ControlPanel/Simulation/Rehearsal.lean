import ControlPanel.Realtime.Binding
import ControlPanel.Simulation.Endpoint

/-!
# Rehearsals

A rehearsal goes through a list of steps: calls of a client's user, and things that the scripted
endpoint does. After each step the client runs until the pause that the step asks for.
-/

namespace ControlPanel

/-- How long the client runs after a step. A connection is settled when it is open and nothing
more is to come, or when the client has given up. -/
inductive Pause where
  | atOnce
  | settled
  | reconnecting
  | bound
  deriving DecidableEq, Repr

inductive RehearsalStep where
  | subscribe (channel : Channel) (name : String) (listener : Listener ClientRequest)
  | unsubscribe (channel : Channel) (target : Target)
  | count (channel : Channel)
  | connect (pause : Pause)
  | disconnect
  | shutdown
  | look
  | describe
  | send (topic : Topic) (data : Json)
  | deliver (messages : List Inbound)
  | finish (ending : Ending) (pause : Pause)
  | heartbeats (count : Nat)
  | bind (name : String) (autoConnect : Bool) (pause : Pause)
  | status (name : String)
  | cache (name : String) (topics : List Topic) (limit : Nat)
  | cached (name : String) (topic : Topic)
  | cachedTopics (name : String)
  | cacheClear (name : String)
  | drop (name : String)

inductive Reply where
  | nothing
  | registered (id : Nat)
  | count (count : Nat)
  | flag (flag : Bool)
  | phase (phase : Phase)
  | text (text : String)
  | status (status : BindingStatus)
  | report (status : BindingStatus) (phase : Phase) (changed : Option Bool)
  | topics (topics : List Topic)
  | cached (latest : Option Payload) (history : List Payload)
  | seen (entries : List (Topic × Int))

inductive Hitch where
  | noConnection
  | timeout
  | tooDeep
  deriving DecidableEq, Repr

namespace Hitch

def message : Hitch → String
  | noConnection => "no connection"
  | timeout => "timeout"
  | tooDeep => "too deep"

end Hitch

/-- A rehearsal in progress: its bindings, each with the news it had when it was last looked at,
and its caches. -/
structure Rehearsal where
  play : Play
  bindings : Keyed (Binding × Nat)
  caches : Keyed TopicCache

namespace Play

def patience : Nat := 1000000

/-- The longest wait between attempts that is waited for, in milliseconds. -/
def longestWait : Nat := 999

def nesting : Nat := 5000

def runUntil (stop : Play → Bool) (haste : Haste) : (fuel : Nat) → Play → Except Hitch Play
  | 0, _ => .error .timeout
  | fuel + 1, p =>
    if stop p then .ok p
    else match p.advance? nesting haste with
      | none => .ok p
      | some none => .error .tooDeep
      | some (some p) => runUntil stop haste fuel p

def drain (p : Play) : Except Hitch Play := runUntil (fun _ => false) .openOnly patience p

def isWaiting (least : Nat) (p : Play) : Bool := p.wait.any fun delay => least ≤ delay

/-- The client has given up since some moment and has not started again. -/
def hasSurrendered (before : Nat) (p : Play) : Bool :=
  before < p.surrenders && p.client.host.phase = .closed

def settle (before : Nat) (p : Play) : Except Hitch Play := do
  let stop (p : Play) : Bool := hasSurrendered before p || p.isWaiting (longestWait + 1)
  let p ← runUntil stop .all patience p
  if p.client.isConnected || hasSurrendered before p then .ok p else .error .timeout

def awaitRetry (p : Play) : Except Hitch Play := do
  let p ← runUntil (isWaiting 0) .all patience p
  if p.isWaiting 0 then .ok p else .error .timeout

def awaitBound (binding : Binding) (p : Play) : Except Hitch Play := do
  let bound (p : Play) : Bool := (binding.status p.client).connected
  let p ← runUntil (fun p => bound p || p.isWaiting (longestWait + 1)) .all patience p
  if bound p then .ok p else .error .timeout

/-- A worker that has only been started has its first turn. -/
def beginWorker (p : Play) : Except Hitch Play :=
  match p.client.host.slot with
  | none => .ok p
  | some id => match p.client.wake? nesting id .look with
    | none => .error .tooDeep
    | some client => .ok { p with client }

/-- Waits for a worker to finish. One that a listener has started meanwhile has its first turn
before the wait is over. -/
def finish (id : Nat) : (fuel : Nat) → Play → Except Hitch Play
  | 0, _ => .error .timeout
  | fuel + 1, p =>
    match p.client.host.workers[id]? with
    | none => .ok p
    | some worker => match p.wakeFirst? nesting .all [(worker, id)] with
      | none => p.beginWorker
      | some none => .error .tooDeep
      | some (some p) => finish id fuel p

/-- Disconnects: the loop is told to stop, and when it has, the rest is done. -/
def disconnect (p : Play) : Except Hitch Play :=
  match p.client.host.slot with
  | none => .ok p
  | some id => do
    let p ← finish id patience { p with client := p.client.beginDisconnect }
    return { p with client := p.client.finishDisconnect }

def shutdown (p : Play) : Except Hitch Play := do
  let p ← p.disconnect
  return { p with client := p.client.clear }

def openWorker? (p : Play) : Option Nat :=
  p.client.host.workers.findIdx? fun worker => worker.loop.stage = .session && !worker.cancelled

def beat (count : Nat) : (fuel : Nat) → Play → Except Hitch Play
  | 0, _ => .error .timeout
  | fuel + 1, p =>
    if count ≤ p.heartbeats then .ok p
    else match p.openWorker? with
      | none => .error .timeout
      | some id => match p.client.wake? nesting id .tick with
        | none => .error .tooDeep
        | some client => do beat count fuel (← drain { p with client })

def script (p : Play) (change : Mailbox → Mailbox) : Except Hitch Play :=
  match p.openWorker? with
  | none => .error .noConnection
  | some id => .ok (p.setMailbox (change ((p.mailbox? id).getD ⟨id, [], .stay⟩)))

end Play

namespace Rehearsal

def start (settings : RealtimeSettings) (clock : Int) (endpoint : Endpoint) : Rehearsal :=
  ⟨⟨.start settings clock, endpoint, []⟩, [], []⟩

def client (r : Rehearsal) : Client := r.play.client

def withPlay (r : Rehearsal) (play : Play) : Rehearsal := { r with play }

def withClient (r : Rehearsal) (client : Client) : Rehearsal :=
  { r with play := { r.play with client } }

def pause (r : Rehearsal) (before : Nat) : Pause → Except Hitch Rehearsal
  | .atOnce => .ok r
  | .reconnecting => return r.withPlay (← r.play.awaitRetry)
  | .settled | .bound => return r.withPlay (← r.play.settle before)

/-- Runs the client until a pause, for which a binding may have to know of the connection. -/
def pauseBound (r : Rehearsal) (before : Nat) (binding : Binding) :
    Pause → Except Hitch Rehearsal
  | .bound => do
    let p ← r.play.awaitBound binding
    return r.withPlay (← p.settle before)
  | pause => r.pause before pause

def answer (r : Rehearsal) (reply : Reply) : Except Hitch (Rehearsal × Reply) :=
  r.play.drain.map fun play => (r.withPlay play, reply)

def report (r : Rehearsal) (name : String) : Rehearsal × Reply :=
  match r.bindings.find? name with
  | none => (r, .nothing)
  | some (binding, seen) =>
    let cell := binding.cell r.client
    let changed := if binding.isAlive r.client then some (decide (seen < cell.updates)) else none
    ({ r with bindings := r.bindings.insert name (binding, cell.updates) },
      .report cell.status r.client.host.phase changed)

def drop (r : Rehearsal) (name : String) : Rehearsal × Bool :=
  let without {α : Type} (entries : Keyed α) : Keyed α := entries.filter fun e => e.1 != name
  match r.bindings.find? name, r.caches.find? name with
  | some (binding, _), _ =>
    ({ r.withClient (binding.detach r.client) with bindings := without r.bindings }, true)
  | none, some cache =>
    ({ r.withClient (cache.detach r.client) with caches := without r.caches }, true)
  | none, none => (r, false)

def step (r : Rehearsal) : RehearsalStep → Except Hitch (Rehearsal × Reply)
  | .subscribe channel name listener =>
    let (client, id) := r.client.subscribe channel name listener
    (r.withClient client).answer (.registered id)
  | .unsubscribe channel target =>
    let (client, removed) := r.client.unsubscribe channel target
    (r.withClient client).answer (.count removed)
  | .count channel => r.answer (.count (r.client.count channel))
  | .connect pause => do
    let before := r.play.surrenders
    let r := r.withClient r.client.connect
    return (← r.pause before pause, .phase r.client.host.phase)
  | .disconnect => do (r.withPlay (← r.play.disconnect)).answer .nothing
  | .shutdown => do (r.withPlay (← r.play.shutdown)).answer .nothing
  | .look => r.answer .nothing
  | .describe => r.answer (.text r.client.text)
  | .send topic data =>
    match r.client.send? Play.nesting topic data with
    | none => .error .tooDeep
    | some (client, queued) => (r.withClient client).answer (.flag queued)
  | .deliver messages => do
    let play ← r.play.script fun m => { m with messages := m.messages ++ messages }
    (r.withPlay play).answer .nothing
  | .finish ending pause => do
    let before := r.play.surrenders
    let play ← r.play.script fun m => { m with ending }
    return (← (r.withPlay play).pause before pause, .nothing)
  | .heartbeats count => do
    (r.withPlay (← r.play.beat count Play.patience)).answer .nothing
  | .bind name autoConnect pause => do
    let before := r.play.surrenders
    let (client, binding) := Binding.attach r.client autoConnect
    let bindings := r.bindings.insert name (binding, 0)
    let r := { r.withClient client with bindings }
    return (← r.pauseBound before binding pause, .status (binding.status client))
  | .status name =>
    let (r, reply) := r.report name
    r.answer reply
  | .cache name topics limit =>
    let (client, cache) := TopicCache.attach r.client topics limit
    let caches := r.caches.insert name cache
    ({ r.withClient client with caches }).answer (.topics cache.topics)
  | .cached name topic =>
    r.answer <| match r.caches.find? name with
      | none => .nothing
      | some cache => .cached (cache.latest? r.client topic) (cache.history r.client topic)
  | .cachedTopics name =>
    r.answer <| match r.caches.find? name with
      | none => .nothing
      | some cache => .seen (cache.seen r.client)
  | .cacheClear name =>
    match r.caches.find? name with
    | none => r.answer .nothing
    | some cache => (r.withClient (cache.clear r.client)).answer .nothing
  | .drop name =>
    let (r, dropped) := r.drop name
    r.answer (.flag dropped)

end Rehearsal

end ControlPanel
