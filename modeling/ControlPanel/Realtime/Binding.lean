import ControlPanel.Realtime.Client

/-!
# Bindings and caches

Both register listeners of their own on a client and remove exactly these when they are dropped. A
binding follows the state of the connection; a cache keeps the payloads of some topics.
-/

namespace ControlPanel

abbrev Subscriptions := List (Channel × Nat)

/-- A binding, with its number among the bindings of the client. -/
structure Binding where
  id : Nat
  subscriptions : Subscriptions

structure TopicCache where
  id : Nat
  topics : List Topic
  subscriptions : Subscriptions

namespace Client

def release (c : Client) (subscriptions : Subscriptions) : Client :=
  subscriptions.foldl (fun c entry => (c.unsubscribe entry.1 (.id entry.2)).1) c

def subscribeAll (c : Client) : List (Channel × Listener ClientRequest) → Client × Subscriptions
  | [] => (c, [])
  | (channel, listener) :: rest =>
    let (c, id) := c.register channel "" listener
    let (c, subscriptions) := subscribeAll c rest
    (c, (channel, id) :: subscriptions)

end Client

namespace Binding

def tell (id : Nat) (news : BindingNews) : Reaction ClientRequest :=
  .ask (.tellBinding id news) fun _ => .done

def listeners (id : Nat) : List (Channel × Listener ClientRequest) :=
  [(.connected, fun _ _ => tell id .opened),
    (.disconnected, fun _ _ => tell id .lost),
    (.error, fun _ event => match event with
      | .error error => tell id (.failed error)
      | _ => .done)]

/-- Binds to a client, and connects if that is wanted and the connection is not open. -/
def attach (c : Client) (autoConnect : Bool) : Client × Binding :=
  let id := c.host.bindings.length
  let cell : BindingCell := ⟨⟨c.isConnected, none⟩, 0⟩
  let c : Client := { c with host := { c.host with bindings := c.host.bindings ++ [cell] } }
  let (c, subscriptions) := c.subscribeAll (listeners id)
  (if autoConnect && !c.isConnected then c.connect else c, ⟨id, subscriptions⟩)

/-- Registers listeners one after another, and goes on with their numbers. -/
def subscribeWithin (next : Subscriptions → Reaction ClientRequest) :
    List (Channel × Listener ClientRequest) → Reaction ClientRequest
  | [] => next []
  | (channel, listener) :: rest => .subscribe channel "" listener fun id =>
    subscribeWithin (fun subscriptions => next ((channel, id) :: subscriptions)) rest

def connectWithin (autoConnect : Bool) (next : Reaction ClientRequest) : Reaction ClientRequest :=
  .ask .isConnected fun isOpen =>
    if autoConnect && isOpen = 0 then .ask .connect fun _ => next else next

/-- Binds to the client from within a listener, which goes on with the binding. -/
def attachWithin (autoConnect : Bool) (next : Binding → Reaction ClientRequest) :
    Reaction ClientRequest :=
  .ask .bind fun id => subscribeWithin
    (fun subscriptions => connectWithin autoConnect (next ⟨id, subscriptions⟩)) (listeners id)

def detach (b : Binding) (c : Client) : Client := c.release b.subscriptions

def cell (b : Binding) (c : Client) : BindingCell :=
  c.host.bindings[b.id]?.getD ⟨⟨false, none⟩, 0⟩

def status (b : Binding) (c : Client) : BindingStatus := (b.cell c).status

def isAlive (b : Binding) (c : Client) : Bool :=
  b.subscriptions.any fun entry => (c.registry.on entry.1).any fun r => r.id == entry.2

end Binding

namespace TopicCache

def listener (id limit : Nat) : Listener ClientRequest := fun _ event =>
  match event with
  | .data topic data timestamp => .ask (.cache id limit topic ⟨data, timestamp⟩) fun _ => .done
  | _ => .done

def distinct (topics : List Topic) : List Topic :=
  topics.foldl (fun seen topic => if topic ∈ seen then seen else seen ++ [topic]) []

/-- Caches the latest payload of some topics, and their last payloads up to a limit. -/
def attach (c : Client) (topics : List Topic) (limit : Nat) : Client × TopicCache :=
  let id := c.host.caches.length
  let topics := distinct topics
  let c : Client := { c with host := { c.host with caches := c.host.caches ++ [.empty] } }
  let (c, subscriptions) :=
    c.subscribeAll (topics.map fun topic => (.topic topic, listener id limit))
  (c, ⟨id, topics, subscriptions⟩)

def detach (cache : TopicCache) (c : Client) : Client := c.release cache.subscriptions

def contents (cache : TopicCache) (c : Client) : CacheContents :=
  c.host.caches[cache.id]?.getD .empty

def latest? (cache : TopicCache) (c : Client) (topic : Topic) : Option Payload :=
  (cache.contents c).latest topic

def history (cache : TopicCache) (c : Client) (topic : Topic) : List Payload :=
  (cache.contents c).history topic

def clear (cache : TopicCache) (c : Client) : Client :=
  { c with host := { c.host with caches := c.host.caches.set cache.id .empty } }

def seen (cache : TopicCache) (c : Client) : List (Topic × Int) :=
  cache.topics.filterMap fun topic =>
    (cache.latest? c topic).map fun payload => (topic, payload.timestamp)

end TopicCache

end ControlPanel
