import ControlPanel.Realtime.Client

/-!
# Observing listeners

Listeners that write down what they receive, and may then call back into the client.
-/

namespace ControlPanel

inductive Followup where
  | connect
  | panic
  | send (topic : Topic) (data : Json)
  | removeAll (channel : Channel)

namespace Observer

def note (name : String) (note : Note) (next : Reaction ClientRequest) : Reaction ClientRequest :=
  .ask (.note name note) fun _ => next

def follow (name : String) : Followup → Reaction ClientRequest
  | .connect => .ask .connect fun _ => .done
  | .panic => .panic
  | .send topic data => .ask (.send topic data) fun queued => note name (.sent (queued = 1)) .done
  | .removeAll channel =>
    .unsubscribe channel .all fun removed => note name (.removed removed) .done

def listener (name : String) (followup : Option Followup) (times : Nat) :
    Listener ClientRequest := fun calls event =>
  note name (.event event) <|
    match followup with
    | some followup => if calls < times then follow name followup else .done
    | none => .done

def reader (name : String) (read : Json → Option Json) : Listener ClientRequest :=
  .typed read fun value => note name (.value value) .done

end Observer

end ControlPanel
