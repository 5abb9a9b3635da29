import ControlPanel.Channel.Event
import ControlPanel.Backend.Status

/-!
# Reports

One line for an event and one for the status of the backend.
-/

namespace ControlPanel

namespace Report

def excerptLength : Nat := 200

def excerpt (text : String) : String :=
  let cs := text.toList
  if cs.length ≤ excerptLength then text
  else String.ofList (cs.take excerptLength ++ ['.', '.', '.'])

def payloadLine (topic : Topic) (data : Json) : String := topic.name ++ " " ++ excerpt data.render

def eventLine : Event → String
  | .connected => "connected"
  | .disconnected true => "disconnected (client closed)"
  | .disconnected false => "disconnected (connection lost)"
  | .error e => "error: " ++ e.message
  | .reconnecting attempt delay =>
    "reconnect attempt " ++ Nat.repr attempt ++ " in " ++ Nat.repr delay ++ " ms"
  | .reconnectFailed attempts => "gave up after " ++ Nat.repr attempts ++ " reconnect attempts"
  | .message frame => payloadLine frame.topic frame.data
  | .data topic data _ => payloadLine topic data

def twoDigits (n : Nat) : String := if n < 10 then "0" ++ Nat.repr n else Nat.repr n

/-- A duration in its two largest units. -/
def uptime (seconds : Nat) : String :=
  let days := seconds / 86400
  let hours := seconds % 86400 / 3600
  let minutes := seconds % 3600 / 60
  if 0 < days then Nat.repr days ++ "d" ++ twoDigits hours ++ "h"
  else if 0 < hours then Nat.repr hours ++ "h" ++ twoDigits minutes ++ "m"
  else Nat.repr minutes ++ "m"

def statusLine (s : SystemStatus) : String :=
  let unhealthy := s.unhealthyComponents
  "backend " ++ s.status ++
    (match s.version with | some version => " v" ++ version | none => "") ++
    (match s.uptimeSeconds with | some seconds => ", up " ++ uptime seconds | none => "") ++
    (if unhealthy.isEmpty then "" else ", unhealthy: " ++ ", ".intercalate unhealthy)

def latestLine (topic : Topic) (timestamp : Int) : String :=
  topic.name ++ " @ " ++ (Json.int timestamp).render

end Report

end ControlPanel
