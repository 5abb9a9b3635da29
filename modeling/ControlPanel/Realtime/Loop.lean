import ControlPanel.Channel.Event
import ControlPanel.Realtime.Backoff
import ControlPanel.Realtime.Phase

/-!
# The connection loop

The loop opens the connection, serves it until it ends, waits, and tries again. It is written as a
transducer: `ConnectionLoop.poll` says what it does when it is woken by a signal, up to the point
where it waits for the next one. Cancellation is looked at before anything else that is ready,
except while a frame is being written and while the connection is being closed.
-/

namespace ControlPanel

/-- What the loop waits for. -/
inductive Stage where
  | starting
  | handshake
  | session
  | writing
  | closing
  | waiting
  | finished
  deriving DecidableEq, Repr

inductive Inbound where
  | text (text : String)
  | binary
  | ping
  | pong
  | close
  | broken (detail : String)
  | ended

/-- What wakes the loop: `look` brings nothing but the occasion to see whether it is cancelled. -/
inductive Signal where
  | look
  | opened
  | refused (detail : String)
  | inbound (message : Inbound)
  | outbound (frame : Frame)
  | tick
  | written
  | writeFailed (detail : String)
  | closeDone
  | elapsed

/-- What the loop does: `write` sends a frame of the client's user and `beat` one of the loop's
own. -/
inductive Effect where
  | phase (phase : Phase)
  | attempts (count : Nat)
  | openOutbound
  | closeOutbound
  | release
  | emit (event : Event)
  | dial
  | write (frame : Frame)
  | beat (frame : Frame)
  | hangUp

structure ConnectionLoop where
  stage : Stage
  backoff : Backoff

namespace ConnectionLoop

def start (policy : ReconnectPolicy) : ConnectionLoop := ⟨.starting, .start policy⟩

def dial (backoff : Backoff) : ConnectionLoop × List Effect :=
  (⟨.handshake, backoff⟩, [.phase .connecting, .dial])

def retry (backoff : Backoff) : ConnectionLoop × List Effect :=
  match backoff.next? with
  | some ((attempt, delay), backoff) =>
    (⟨.waiting, backoff⟩, [.attempts attempt, .emit (.reconnecting attempt delay)])
  | none =>
    (⟨.finished, backoff⟩, [.release, .emit (.reconnectFailed backoff.attempts)])

def opened (backoff : Backoff) : ConnectionLoop × List Effect :=
  (⟨.session, backoff.reset⟩,
    [.attempts 0, .openOutbound, .phase .opened, .emit .connected])

def refused (backoff : Backoff) (detail : String) : ConnectionLoop × List Effect :=
  let (loop, effects) := retry backoff
  (loop, .phase .closed :: .emit (.error (.connection detail)) :: effects)

def lost (backoff : Backoff) (error : Option LinkError) : ConnectionLoop × List Effect :=
  let (loop, effects) := retry backoff
  let reports := error.toList.map fun error => Effect.emit (.error error)
  (loop, .closeOutbound :: .phase .closed :: (reports ++ .emit (.disconnected false) :: effects))

def deliveries (now : Int) (text : String) : List Event :=
  match Frame.ofText now text with
  | .ok frame => Event.ofFrame frame
  | .error fault => [.error (.protocol fault.message)]

def receive (now : Int) (backoff : Backoff) : Inbound → ConnectionLoop × List Effect
  | .text text => (⟨.session, backoff⟩, (deliveries now text).map .emit)
  | .binary | .ping | .pong => (⟨.session, backoff⟩, [])
  | .close =>
    let (loop, effects) := lost backoff none
    (loop, .phase .closing :: effects)
  | .broken detail => lost backoff (some (.transport detail))
  | .ended => lost backoff none

/-- What the loop does when a signal wakes it at a given time. A signal that it does not wait for
does nothing. -/
def poll (cancelled : Bool) (now : Int) (loop : ConnectionLoop) (signal : Signal) :
    ConnectionLoop × List Effect :=
  let backoff := loop.backoff
  match loop.stage, signal with
  | .starting, _ =>
    if cancelled then (⟨.finished, backoff⟩, [.phase .connecting, .phase .closed])
    else dial backoff
  | .handshake, signal =>
    if cancelled then (⟨.finished, backoff⟩, [.phase .closed])
    else match signal with
      | .opened => opened backoff
      | .refused detail => refused backoff detail
      | _ => (loop, [])
  | .session, signal =>
    if cancelled then (⟨.closing, backoff⟩, [.phase .closing, .hangUp])
    else match signal with
      | .inbound message => receive now backoff message
      | .outbound frame => (⟨.writing, backoff⟩, [.write frame])
      | .tick => (⟨.writing, backoff⟩, [.beat (.keepAlive now)])
      | _ => (loop, [])
  | .writing, .written => (⟨.session, backoff⟩, [])
  | .writing, .writeFailed detail => lost backoff (some (.transport detail))
  | .closing, .closeDone =>
    (⟨.finished, backoff⟩, [.closeOutbound, .phase .closed, .emit (.disconnected true)])
  | .waiting, signal =>
    if cancelled then (⟨.finished, backoff⟩, [.phase .closed])
    else match signal with
      | .elapsed => dial backoff
      | _ => (loop, [])
  | _, _ => (loop, [])

end ConnectionLoop

end ControlPanel
