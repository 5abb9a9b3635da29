import ControlPanel.Channel.Topic

/-!
# Cached payloads

The latest payload of each topic, and the last few of them.
-/

namespace ControlPanel

structure Payload where
  data : Json
  timestamp : Int

structure CacheContents where
  latest : Topic → Option Payload
  history : Topic → List Payload

namespace CacheContents

def empty : CacheContents := ⟨fun _ => none, fun _ => []⟩

def pushBounded (limit : Nat) (payloads : List Payload) (payload : Payload) : List Payload :=
  (if payloads.length = limit then payloads.drop 1 else payloads) ++ [payload]

/-- Records a payload. With limit zero there is no history. -/
def record (c : CacheContents) (limit : Nat) (topic : Topic) (payload : Payload) :
    CacheContents where
  latest t := if t = topic then some payload else c.latest t
  history t :=
    if t = topic ∧ 0 < limit then pushBounded limit (c.history t) payload else c.history t

end CacheContents

end ControlPanel
