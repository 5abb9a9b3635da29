import ControlPanel.Json.Decoder
import ControlPanel.Json.Printer
import ControlPanel.Refusal

/-!
# Answers of the backend

Every answer is wrapped in an envelope with a verdict, a payload and a message. A verdict is given
by `success` or by `status`; an envelope that says neither is accepted.
-/

namespace ControlPanel

/-- Where a request fails: before it is sent, on its way, or when its answer is read. -/
inductive RequestStage where
  | building
  | sending
  | decoding
  deriving DecidableEq, Repr

inductive ApiError where
  | request (stage : RequestStage) (detail : Option Json.Fault)
  | status (code : Nat) (body : String)
  | rejected (message : String)
  | missingData
  | refused (refusal : Refusal)

structure Envelope (α : Type) where
  success : Option Bool
  status : Option String
  data : Option α
  message : Option String
  timestamp : Option Json

namespace ApiError

/-- The text of an error. A failed request is told by its stage, not in words. -/
def message : ApiError → String
  | request .. => "HTTP request failed"
  | status code body => "MOVA API error (" ++ Nat.repr code ++ "): " ++ body
  | rejected message => "Request rejected: " ++ message
  | missingData => "Response envelope has no data"
  | refused refusal => refusal.message

end ApiError

namespace Envelope

variable {α : Type}

def isRejection (e : Envelope α) : Bool := e.success = some false || e.status = some "error"

def accept (e : Envelope α) : Except ApiError (Envelope α) :=
  if e.isRejection then .error (.rejected (e.message.getD "request failed")) else .ok e

def payload (e : Envelope α) : Except ApiError α := do
  match (← e.accept).data with
  | some data => .ok data
  | none => .error .missingData

def encode (write : α → Json) (e : Envelope α) : Json :=
  .ofMembers (Json.member? "success" .bool e.success ++ Json.member? "status" .string e.status ++
    [("data", Json.ofOption write e.data)] ++ Json.member? "message" .string e.message ++
    Json.member? "timestamp" id e.timestamp)

def record (payload : Json.Decoder α) : Json.Record (Envelope α) :=
  Envelope.mk <$> .defaultedOption "success" .bool <*> .defaultedOption "status" .string
    <*> .defaultedOption "data" payload <*> .defaultedOption "message" .string
    <*> .defaultedOption "timestamp" .json

def decoder (payload : Json.Decoder α) : Json.Decoder (Envelope α) :=
  (record payload).decoder "struct ApiEnvelope"

end Envelope

end ControlPanel
