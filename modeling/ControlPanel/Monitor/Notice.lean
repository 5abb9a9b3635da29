import ControlPanel.Monitor.Report
import ControlPanel.Rest.Envelope
import ControlPanel.Settings.Basic

/-!
# Notices

What the monitor writes to its log. A notice has a level, a line of text and some fields; the
lines of events are those of reports.
-/

namespace ControlPanel

inductive Level where
  | error
  | warn
  | info
  | debug
  | trace
  deriving DecidableEq, Repr

inductive Field where
  | word (text : String)
  | time (timestamp : Int)
  | seen (topic : Topic) (timestamp : Int)

inductive Notice where
  | started (settings : MonitorSettings)
  | status (status : SystemStatus)
  | statusUnavailable (error : ApiError)
  | change (event : Event)
  | surrender (event : Event)
  | frame (frame : Frame)
  | keepAlive
  | shutdownRequested
  | topicSeen (topic : Topic) (timestamp : Int)
  | lastError (error : LinkError)

namespace Level

def all : List Level := [error, warn, info, debug, trace]

def name : Level → String
  | error => "ERROR"
  | warn => "WARN"
  | info => "INFO"
  | debug => "DEBUG"
  | trace => "TRACE"

def rank (level : Level) : Nat := all.idxOf level + 1

end Level

namespace Notice

def level : Notice → Level
  | statusUnavailable _ => .warn
  | surrender _ => .error
  | keepAlive => .trace
  | lastError _ => .debug
  | _ => .info

def message : Notice → String
  | started _ => "Starting mova-monitor"
  | status s => Report.statusLine s
  | statusUnavailable _ => "System status unavailable"
  | change event | surrender event => Report.eventLine event
  | frame f => Report.eventLine (.message f)
  | keepAlive => "server heartbeat"
  | shutdownRequested => "Shutdown requested"
  | topicSeen .. => "Topic seen"
  | lastError _ => "Last realtime error"

def fields : Notice → List (String × Field)
  | started settings =>
    [("ws_url", .word settings.realtime.address), ("api_url", .word settings.api.address),
      ("heartbeat_ms", .word (Nat.repr settings.realtime.heartbeat)),
      ("max_reconnect_attempts", .word (Nat.repr settings.realtime.reconnect.maxAttempts))]
  | statusUnavailable error => [("error", .word error.message)]
  | change event => [("channel", .word event.channel.name)]
  | frame f => [("topic", .word f.topic.name), ("timestamp", .time f.timestamp)]
  | topicSeen topic timestamp => [("latest", .seen topic timestamp)]
  | lastError error => [("error", .word error.message)]
  | _ => []

/-- What is noticed of an event. The payload of a topic is noticed with its frame. -/
def ofEvent? : Event → Option Notice
  | .reconnectFailed attempts => some (surrender (.reconnectFailed attempts))
  | .message f => some (if f.topic = .heartbeat then keepAlive else frame f)
  | .data .. => none
  | event => some (change event)

end Notice

namespace Field

def text : Field → String
  | word text => text
  | time timestamp => (Json.int timestamp).render
  | seen topic timestamp => Report.latestLine topic timestamp

end Field

end ControlPanel
