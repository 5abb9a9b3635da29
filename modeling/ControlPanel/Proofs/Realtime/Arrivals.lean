import ControlPanel.Proofs.Channel.Names
import ControlPanel.Proofs.Json.Records
import ControlPanel.Proofs.Realtime.Interleaving

/-!
# What comes in on a connection

A text that comes in is a frame or it is none. What there is to be delivered of it
(`Arrival.events_eq`) and on which channels decides what listeners can hear (`Arrival.routed`): the
name that a frame carries and the name that a listener has given to subscribe meet only as topics.
-/

namespace ControlPanel

namespace Frame

variable {now : Int} {f : Frame}

theorem record_read_eq_ok_iff {source : Json.Source} {slots : String → Json.Slot} :
    (record now).read source slots = .ok f ↔
      (Json.Record.field "type" Topic.decoder).read source slots = .ok f.topic ∧
      (Json.Record.defaulted "data" .null .json).read source slots = .ok f.data ∧
      (Json.Record.defaulted "timestamp" now .integer64).read source slots = .ok f.timestamp := by
  change (Json.Record.and (.and (.and (.done Frame.mk) _) _) _).read _ _ = _ ↔ _
  simp only [Json.Record.and_read_eq_ok_iff]
  constructor
  · rintro ⟨_, timestamp, ⟨_, data, ⟨_, topic, ⟨⟩, h₁, rfl⟩, h₂, rfl⟩, h₃, rfl⟩
    exact ⟨h₁, h₂, h₃⟩
  · rintro ⟨h₁, h₂, h₃⟩
    exact ⟨_, _, ⟨_, _, ⟨_, _, rfl, h₁, rfl⟩, h₂, rfl⟩, h₃, rfl⟩

theorem reads_of_ofText {text : String} (parsed : ofText now text = .ok f) : ∃ slots,
    (Json.Record.field "type" Topic.decoder).read .text slots = .ok f.topic ∧
    (Json.Record.defaulted "data" .null .json).read .text slots = .ok f.data ∧
    (Json.Record.defaulted "timestamp" now .integer64).read .text slots = .ok f.timestamp ∧
    ∀ name place node, slots name = .given place node →
      node.Inside (Json.Document.ofText text).root := by
  have decoded := Json.Decoder.read_of_ofText parsed
  obtain ⟨slots, read, inside⟩ := Json.Record.exists_slots_of_decoder decoded
  obtain ⟨topic, data, timestamp⟩ := record_read_eq_ok_iff.mp read
  exact ⟨slots, topic, data, timestamp, inside⟩

/-- The topic of a frame that comes in is a known one if its name is known. -/
theorem topic_of_ofText {text : String} (parsed : ofText now text = .ok f) :
    f.topic = .ofName f.topic.name := by
  obtain ⟨slots, named, -⟩ := reads_of_ofText parsed
  unfold Json.Record.field at named
  dsimp only at named
  split at named
  next place node _ =>
    have named := Json.mapError_eq_ok_iff.mp named
    unfold Topic.decoder Json.Decoder.map at named
    cases text : Json.Decoder.string .text node with
    | error fault => simp [text, Except.map] at named
    | ok name =>
      simp only [text, Except.map, Except.ok.injEq] at named
      rw [← named, Topic.adopt_eq_ofName, Topic.name_ofName]
  next => cases named

theorem topic_eq_ofName_iff {text : String} (parsed : ofText now text = .ok f) {name : String} :
    f.topic = .ofName name ↔ f.topic.name = name := by
  constructor
  · intro same
    rw [same, Topic.name_ofName]
  · rintro rfl
    exact topic_of_ofText parsed

end Frame

theorem Listener.typed_holds {ρ α : Type} {P : Reaction ρ → Prop} {read : Json → Option α}
    {listener : α → Reaction ρ} (done : P .done) (holds : ∀ a, P (listener a)) (calls : Nat)
    (event : Event) : P (typed read listener calls event) := by
  unfold typed
  cases event.value? read with
  | none => exact done
  | some a => exact holds a

/-! ## What comes in -/

def Inbound.isFrame : Inbound → Bool
  | text _ | binary | ping | pong => true
  | close | broken _ | ended => false

structure Arrival where
  time : Int
  message : Inbound

namespace Arrival

def frame? (a : Arrival) : Option Frame :=
  match a.message with
  | .text text => (Frame.ofText a.time text).toOption
  | _ => none

def fault? (a : Arrival) : Option Json.Fault :=
  match a.message with
  | .text text => match Frame.ofText a.time text with
    | .ok _ => none
    | .error fault => some fault
  | _ => none

def events (a : Arrival) : List Event :=
  match a.message with
  | .text text => ConnectionLoop.deliveries a.time text
  | _ => []

variable {a : Arrival}

theorem poll_of_isFrame (isFrame : a.message.isFrame = true) (backoff : Backoff) :
    ConnectionLoop.poll false a.time ⟨.session, backoff⟩ (.inbound a.message) =
      (⟨.session, backoff⟩, a.events.map .emit) := by
  obtain ⟨time, message⟩ := a
  cases message with
  | text | binary | ping | pong => rfl
  | close | broken | ended => cases isFrame

theorem topic_of_frame? {f : Frame} (parsed : a.frame? = some f) (name : String) :
    f.topic = .ofName name ↔ f.topic.name = name := by
  unfold frame? at parsed
  split at parsed
  next text _ =>
    cases read : Frame.ofText a.time text with
    | error fault => simp [read, Except.toOption] at parsed
    | ok other =>
      simp only [read, Except.toOption, Option.some.injEq] at parsed
      exact parsed ▸ Frame.topic_eq_ofName_iff read
  next => cases parsed

theorem events_eq (a : Arrival) :
    a.events = a.frame?.elim [] Event.ofFrame ++
      a.fault?.toList.map fun fault => .error (.protocol fault.message) := by
  unfold events frame? fault?
  cases a.message with
  | text text =>
    dsimp only [ConnectionLoop.deliveries]
    cases Frame.ofText a.time text <;> rfl
  | _ => rfl

end Arrival

/-- What happens while a session goes on: something comes in, a handle sends, or a frame is written,
be it the next one in the queue or a heartbeat. -/
inductive Happening where
  | arrival (a : Arrival)
  | send (topic : Topic) (data : Json)
  | write
  | beat

namespace Happening

def arrival? : Happening → Option Arrival
  | arrival a => some a
  | _ => none

def actions (worker : Nat) : Happening → List SharedClient.Action
  | arrival a => [.wait a.time, .wake worker (.inbound a.message)]
  | send topic data => [.send topic data]
  | write => [.writeNext worker, .wake worker .written]
  | beat => [.wake worker .tick, .wake worker .written]

end Happening

/-! ## What is to be heard of it -/

/-- What a listener on the channel of a name hears of what comes in. -/
structure Routed (name : String) (arrivals : List Arrival) (events : List Event) : Prop where
  topic : Channel.isReserved name = false →
    events = ((arrivals.filterMap Arrival.frame?).filter (·.topic.name = name)).map
      fun f => .data f.topic f.data f.timestamp
  message : name = "message" → events = (arrivals.filterMap Arrival.frame?).map .message
  error : name = "error" →
    events = (arrivals.filterMap Arrival.fault?).map fun fault => .error (.protocol fault.message)
  other : name ∈ ["connected", "disconnected", "reconnecting", "reconnect_failed"] → events = []

namespace Arrival

variable (arrivals : List Arrival)

theorem filter_topic (name : String) :
    (arrivals.flatMap events).filter (·.channel = .topic (.ofName name)) =
      ((arrivals.filterMap frame?).filter (·.topic.name = name)).map
        fun f => .data f.topic f.data f.timestamp := by
  induction arrivals with
  | nil => rfl
  | cons a arrivals ih =>
    rw [List.flatMap_cons, List.filter_append, ih, a.events_eq, List.filterMap_cons]
    have faultless : (a.fault?.toList.map fun fault => Event.error (.protocol fault.message)).filter
        (·.channel = .topic (.ofName name)) = [] := by
      cases a.fault? <;> simp [Event.channel]
    rw [List.filter_append, faultless, List.append_nil]
    cases parsed : a.frame? with
    | none => rfl
    | some f =>
      have named := topic_of_frame? parsed name
      by_cases own : f.topic.name = name <;>
        simp [Event.ofFrame, Event.channel, named, own]

theorem filter_message :
    (arrivals.flatMap events).filter (·.channel = .message) =
      (arrivals.filterMap frame?).map .message := by
  induction arrivals with
  | nil => rfl
  | cons a arrivals ih =>
    rw [List.flatMap_cons, List.filter_append, ih, a.events_eq, List.filterMap_cons]
    cases a.frame? <;> cases a.fault? <;> simp [Event.ofFrame, Event.channel]

theorem filter_error :
    (arrivals.flatMap events).filter (·.channel = .error) =
      (arrivals.filterMap fault?).map fun fault => .error (.protocol fault.message) := by
  induction arrivals with
  | nil => rfl
  | cons a arrivals ih =>
    rw [List.flatMap_cons, List.filter_append, ih, a.events_eq, List.filterMap_cons]
    cases a.frame? <;> cases a.fault? <;> simp [Event.ofFrame, Event.channel]

theorem filter_other (channel : Channel) (notMessage : .message ≠ channel)
    (notError : .error ≠ channel) (noTopic : ∀ topic, .topic topic ≠ channel) :
    (arrivals.flatMap events).filter (·.channel = channel) = [] := by
  induction arrivals with
  | nil => rfl
  | cons a arrivals ih =>
    rw [List.flatMap_cons, List.filter_append, ih, a.events_eq]
    cases a.frame? <;> cases a.fault? <;>
      simp [Event.ofFrame, Event.channel, notMessage, notError, noTopic]

theorem routed (name : String) : Routed name arrivals
    ((arrivals.flatMap events).filter (·.channel = Channel.ofName name)) where
  topic free := by rw [Channel.ofName_of_free free, filter_topic]
  message := by
    rintro rfl
    exact filter_message arrivals
  error := by
    rintro rfl
    exact filter_error arrivals
  other := by
    intro reserved
    simp only [List.mem_cons, List.not_mem_nil, or_false] at reserved
    rcases reserved with rfl | rfl | rfl | rfl
    · exact filter_other arrivals .connected nofun nofun nofun
    · exact filter_other arrivals .disconnected nofun nofun nofun
    · exact filter_other arrivals .reconnecting nofun nofun nofun
    · exact filter_other arrivals .reconnectFailed nofun nofun nofun

end Arrival

end ControlPanel
