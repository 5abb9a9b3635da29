import ControlPanel.Rest.Address
import ControlPanel.Rest.Exchange
import ControlPanel.Settings.Basic
import ControlPanel.Text.Quoted

/-!
# The client of the request endpoints

An `ApiClient` knows where the backend is and the token to show it. It turns an exchange into the
request that is sent, hands that to a transport, and reads the answer.
-/

namespace ControlPanel

structure ApiClient where
  base : String
  token : Option String
  deriving DecidableEq, Repr

structure HttpRequest where
  method : Method
  address : Address
  authorization : Option String
  body : Option Json

/-- What carries requests: its state afterwards and the answer, or none if there was no answer. -/
abbrev Transport (σ : Type) := HttpRequest → σ → σ × Option Response

namespace ApiClient

def ofBase (base : String) : ApiClient := ⟨Text.trimSlashes base, none⟩

def ofSettings (settings : ApiSettings) : ApiClient :=
  { ofBase settings.address with token := settings.token }

def hasToken (c : ApiClient) : Bool := c.token.isSome

def text (c : ApiClient) : String :=
  "ApiClient \x7b base_url: " ++ Text.quoted c.base ++ ", has_token: " ++
    (if c.hasToken then "true" else "false") ++ " \x7d"

def isHeaderChar (c : Char) : Bool := c = '\t' || (0x20 ≤ c.toNat && c.toNat != 0x7F)

/-- The header that shows a token. Blanks at its end do not arrive. -/
def bearer? (token : String) : Option String :=
  if token.toList.all isHeaderChar then some (Text.trim ("Bearer " ++ token)) else none

def authorization? (c : ApiClient) : Option (Option String) :=
  match c.token with
  | none => some none
  | some token => (bearer? token).map some

/-- The request of an exchange, unless the address or the token cannot be used. -/
def request? {α : Type} (c : ApiClient) (e : Exchange α) : Option HttpRequest := do
  let address ← Address.ofText? (c.base ++ e.path)
  return ⟨e.method, address, ← c.authorization?, e.body⟩

def send {α σ : Type} (c : ApiClient) (transport : Transport σ) (e : Exchange α) (s : σ) :
    σ × Except ApiError α :=
  match c.request? e with
  | none => (s, .error (.request .building none))
  | some request => match transport request s with
    | (s, none) => (s, .error (.request .sending none))
    | (s, some response) => (s, e.read response)

def call {α σ : Type} (c : ApiClient) (transport : Transport σ)
    (e : Except Refusal (Exchange α)) (s : σ) : σ × Except ApiError α :=
  match e with
  | .ok e => c.send transport e s
  | .error refusal => (s, .error (.refused refusal))

end ApiClient

end ControlPanel
