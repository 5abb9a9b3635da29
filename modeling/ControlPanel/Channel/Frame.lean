import ControlPanel.Channel.Topic
import ControlPanel.Json.Printer

/-!
# Frames

What travels over the realtime connection in both directions: a topic, the data, and the time in
milliseconds. A frame without data carries `null`; one without a time is stamped when it arrives.
-/

namespace ControlPanel

structure Frame where
  topic : Topic
  data : Json
  timestamp : Int

namespace Frame

def keepAlive (now : Int) : Frame := ⟨.heartbeat, .object [], now⟩

def text (f : Frame) : String :=
  "\x7b\"type\":" ++ f.topic.encode.render ++ ",\"data\":" ++ f.data.render ++ ",\"timestamp\":" ++
    (Json.int f.timestamp).render ++ "\x7d"

def record (now : Int) : Json.Record Frame :=
  Frame.mk <$> .field "type" Topic.decoder <*> .defaulted "data" .null .json
    <*> .defaulted "timestamp" now .integer64

def decoder (now : Int) : Json.Decoder Frame := (record now).decoder "struct WebSocketEvent"

def ofText (now : Int) (text : String) : Except Json.Fault Frame := (decoder now).ofText text

end Frame

end ControlPanel
