import ControlPanel.Monitor.Notice
import ControlPanel.Realtime.Binding

/-!
# Watching a client

The monitor registers listeners for everything that happens on a client, keeps the latest payload
of every known topic, and connects. What it notices is what its listeners have written down.
-/

namespace ControlPanel

structure Watch where
  client : Client
  cache : TopicCache
  binding : Binding

namespace Watch

def listener : Listener ClientRequest := fun _ event =>
  .ask (.note "" (.event event)) fun _ => .done

def channels : List Channel :=
  [.connected, .disconnected, .error, .reconnecting, .reconnectFailed, .message]

def start (c : Client) : Watch :=
  let (c, _) := c.subscribeAll (channels.map fun channel => (channel, listener))
  let (c, cache) := TopicCache.attach c Topic.catalog 0
  let (client, binding) := Binding.attach c true
  ⟨client, cache, binding⟩

def notices (notes : List (String × Note)) : List Notice :=
  notes.filterMap fun entry => match entry.2 with
    | .event event => Notice.ofEvent? event
    | _ => none

def hasSurrendered (notes : List (String × Note)) : Bool :=
  notes.any fun entry => match entry.2 with
    | .event (.reconnectFailed _) => true
    | _ => false

def summary (w : Watch) : List Notice :=
  (w.cache.seen w.client).map (fun (topic, timestamp) => .topicSeen topic timestamp) ++
    ((w.binding.status w.client).lastError.map .lastError).toList

def release (w : Watch) : Client := w.cache.detach (w.binding.detach w.client)

end Watch

end ControlPanel
