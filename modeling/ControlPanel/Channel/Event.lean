import ControlPanel.Channel.Frame

/-!
# Channels and events

A listener registers on a channel: one of the client's own lifecycle channels, or a topic. What it
receives is an event, and the event decides on which channel it is delivered.
-/

namespace ControlPanel

/-- What goes wrong on the realtime connection. It is told to listeners and never returned. -/
inductive LinkError where
  | connection (detail : String)
  | transport (detail : String)
  | protocol (detail : String)
  | notConnected (topic : Topic)
  | unwritable (detail : String)
  deriving DecidableEq, Repr

inductive Channel where
  | connected
  | disconnected
  | error
  | message
  | reconnecting
  | reconnectFailed
  | topic (topic : Topic)
  deriving DecidableEq, Repr

/-- What listeners receive. A delay is in milliseconds. -/
inductive Event where
  | connected
  | disconnected (intentional : Bool)
  | error (error : LinkError)
  | reconnecting (attempt delay : Nat)
  | reconnectFailed (attempts : Nat)
  | message (frame : Frame)
  | data (topic : Topic) (data : Json) (timestamp : Int)

namespace LinkError

def message : LinkError → String
  | connection detail => "Connection error: " ++ detail
  | transport detail => "Transport error: " ++ detail
  | protocol detail => "Protocol error: " ++ detail
  | notConnected topic => "Not connected: dropped outbound '" ++ topic.name ++ "' frame"
  | unwritable detail => "Serialization error: " ++ detail

end LinkError

namespace Channel

/-- The names of the client's own channels. -/
def reservedNames : List String :=
  ["connected", "disconnected", "error", "message", "reconnecting", "reconnect_failed"]

def isReserved (name : String) : Bool := name ∈ reservedNames

def name : Channel → String
  | connected => "connected"
  | disconnected => "disconnected"
  | error => "error"
  | message => "message"
  | reconnecting => "reconnecting"
  | reconnectFailed => "reconnect_failed"
  | topic t => t.name

/-- The channel of a name: the client's own one if the name is reserved, else a topic. -/
def ofName (name : String) : Channel :=
  match name with
  | "connected" => connected
  | "disconnected" => disconnected
  | "error" => error
  | "message" => message
  | "reconnecting" => reconnecting
  | "reconnect_failed" => reconnectFailed
  | name => topic (Topic.ofName name)

end Channel

namespace Event

def channel : Event → Channel
  | connected => .connected
  | disconnected _ => .disconnected
  | error _ => .error
  | reconnecting .. => .reconnecting
  | reconnectFailed _ => .reconnectFailed
  | message _ => .message
  | data topic _ _ => .topic topic

def payload? : Event → Option Json
  | message frame => some frame.data
  | data _ payload _ => some payload
  | _ => none

/-- What is read of the payload of a topic. -/
def value? {α : Type} (read : Json → Option α) : Event → Option α
  | data _ payload _ => read payload
  | _ => none

/-- The two deliveries of a frame: its data on its topic, then the whole frame. -/
def ofFrame (frame : Frame) : List Event :=
  [data frame.topic frame.data frame.timestamp, message frame]

def decode? {α : Type} (event : Event) (d : Json.Decoder α) : Option (Except Json.Fault α) :=
  event.payload?.map d.ofJson

end Event

end ControlPanel
