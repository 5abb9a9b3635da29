import ControlPanel.Rest.Envelope
import ControlPanel.Text.Charset

/-!
# Exchanges with the backend

An `Exchange` is one request together with the way its answer is read. Building it needs no
network, so what a call sends and what it makes of every answer can be told without sending it.
-/

namespace ControlPanel

inductive Method where
  | get
  | post
  | put
  | delete
  deriving DecidableEq, Repr

/-- The body of an answer, or that it broke off before its end. -/
inductive Body where
  | whole (bytes : List UInt8)
  | cut
  deriving DecidableEq, Repr

structure Response where
  status : Nat
  mediaType : String
  body : Body
  deriving DecidableEq, Repr

structure Exchange (α : Type) where
  method : Method
  path : String
  body : Option Json
  read : Response → Except ApiError α

namespace Method

def name : Method → String
  | get => "GET"
  | post => "POST"
  | put => "PUT"
  | delete => "DELETE"

end Method

/-! ## Documents of bytes -/

namespace Json.Document

/-- A character that does not occur in a list, among a number of candidates from a point on. -/
def absentChar (cs : List (Option Char)) (start : Nat) : (count : Nat) → Char
  | 0 => Char.ofNat start
  | count + 1 =>
    let c := Char.ofNat start
    if cs.contains (some c) then absentChar cs (start + 1) count else c

def ofBytes (bytes : List UInt8) : Document :=
  let cs := Text.utf8 bytes
  let mark := absentChar cs 0xF0000 cs.length
  ofChars (· = mark) (cs.map fun c => c.getD mark)

end Json.Document

/-! ## Reading answers -/

namespace Response

def isSuccess (r : Response) : Bool := 200 ≤ r.status && r.status < 300

def text (r : Response) : String :=
  match r.body with
  | .whole bytes => (Text.Charset.ofMediaType r.mediaType).text bytes
  | .cut => "<unreadable body>"

/-- The bytes of a body that came whole with a status of success. -/
def bytes (r : Response) : Except ApiError (List UInt8) :=
  if r.isSuccess then
    match r.body with
    | .whole bytes => .ok bytes
    | .cut => .error (.request .decoding none)
  else .error (.status r.status r.text)

def payload {α : Type} (d : Json.Decoder α) (r : Response) : Except ApiError α := do
  let bytes ← r.bytes
  match (Envelope.decoder d).ofDocument (.ofBytes bytes) with
  | .ok envelope => envelope.payload
  | .error fault => .error (.request .decoding (some fault))

def isBlankByte (b : UInt8) : Bool := b ∈ [0x20, 0x09, 0x0A, 0x0C, 0x0D]

/-- Refuses a rejection. A body that is blank or no envelope is none. -/
def verdict (r : Response) : Except ApiError Unit := do
  let bytes ← r.bytes
  if bytes.all isBlankByte then .ok ()
  else match (Envelope.decoder .json).ofDocument (.ofBytes bytes) with
    | .ok envelope => envelope.accept.map fun _ => ()
    | .error _ => .ok ()

end Response

/-! ## Kinds of exchanges -/

namespace Exchange

variable {α : Type}

def get (path : String) (d : Json.Decoder α) : Exchange α :=
  ⟨.get, path, none, Response.payload d⟩

def post (path : String) (body : Json) (d : Json.Decoder α) : Exchange α :=
  ⟨.post, path, some body, Response.payload d⟩

def postEmpty (path : String) (d : Json.Decoder α) : Exchange α :=
  ⟨.post, path, none, Response.payload d⟩

def put (path : String) (body : Json) (d : Json.Decoder α) : Exchange α :=
  ⟨.put, path, some body, Response.payload d⟩

def delete (path : String) : Exchange Unit := ⟨.delete, path, none, Response.verdict⟩

end Exchange

end ControlPanel
