import ControlPanel.Keyed
import ControlPanel.Listeners.Reaction
import ControlPanel.Listeners.Registry

/-!
# Delivery

`Emitter.emit?` delivers an event to the listeners that are registered on its channel at that
moment, in order, whatever they do meanwhile. A listener that panics ends its own reaction only.
Listeners may emit events themselves, so deliveries nest, and listeners that answer each other
without end would nest for ever: a delivery is given up, with no result, when it nests deeper than
a limit.
-/

namespace ControlPanel

/-- A call of a listener: the registration, the event, and how many reactions it was made from
within. -/
structure Invocation where
  id : Nat
  name : String
  event : Event
  depth : Nat

/-- A registry at work: which registration is the newest under each name, the events emitted and
the calls made so far, both in the order in which they began, how many events came before each
registration, and the state of the host that answers what listeners ask for. -/
structure Emitter (ρ σ : Type) where
  registry : Registry (Listener ρ)
  names : Keyed Nat
  emitted : List Event
  calls : List Invocation
  before : List Nat
  host : σ

/-- How a host answers: its state afterwards, the answer, and an event to emit before the answer
is given. -/
abbrev Host (ρ σ : Type) := ρ → σ → σ × Nat × Option Event

def Host.none {σ : Type} : Host Empty σ := fun request _ => nomatch request

namespace Emitter

variable {ρ σ : Type}

def start (host : σ) : Emitter ρ σ := ⟨.empty, [], [], [], [], host⟩

/-! ## Registrations -/

/-- Registers a listener that nobody asks for by name; the answer is its number. -/
def register (s : Emitter ρ σ) (channel : Channel) (name : String) (listener : Listener ρ) :
    Emitter ρ σ × Nat :=
  let (registry, id) := s.registry.subscribe channel name listener
  ({ s with registry, before := s.before ++ [s.emitted.length] }, id)

/-- Registers a listener under a name; the answer is its number. -/
def subscribe (s : Emitter ρ σ) (channel : Channel) (name : String) (listener : Listener ρ) :
    Emitter ρ σ × Nat :=
  let (s, id) := s.register channel name listener
  ({ s with names := s.names.insert name id }, id)

def unsubscribe (s : Emitter ρ σ) (channel : Channel) (target : Target) : Emitter ρ σ × Nat :=
  let remove (id : Option Nat) : Emitter ρ σ × Nat :=
    let (registry, removed) := s.registry.unsubscribe channel id
    ({ s with registry }, removed)
  match target with
  | .all => remove .none
  | .id id => remove (some id)
  | .named name => match s.names.find? name with
    | some id => remove (some id)
    | .none => (s, 0)

def count (s : Emitter ρ σ) (channel : Channel) : Nat := s.registry.count channel

def clear (s : Emitter ρ σ) : Emitter ρ σ := { s with registry := s.registry.clear }

def callsOf (s : Emitter ρ σ) (id : Nat) : Nat := s.calls.countP fun call => call.id == id

/-! ## Reactions -/

abbrev Delivery (ρ σ : Type) := Emitter ρ σ → Event → Option (Emitter ρ σ × Nat)

def askWith? (host : Host ρ σ) (deliver : Delivery ρ σ) (s : Emitter ρ σ) (request : ρ) :
    Option (Emitter ρ σ × Nat) :=
  let (state, answer, event) := host request s.host
  let s := { s with host := state }
  match event with
  | .none => some (s, answer)
  | some event => (deliver s event).map fun delivered => (delivered.1, answer)

def react? (host : Host ρ σ) (deliver : Delivery ρ σ) :
    Reaction ρ → Emitter ρ σ → Option (Emitter ρ σ)
  | .done, s => some s
  | .panic, s => some s
  | .subscribe channel name listener next, s =>
    let (s, id) := s.subscribe channel name listener
    react? host deliver (next id) s
  | .unsubscribe channel target next, s =>
    let (s, removed) := s.unsubscribe channel target
    react? host deliver (next removed) s
  | .emit event next, s =>
    (deliver s event).bind fun (s, called) => react? host deliver (next called) s
  | .count channel next, s => react? host deliver (next (s.count channel)) s
  | .clear next, s => react? host deliver next s.clear
  | .ask request next, s =>
    (s.askWith? host deliver request).bind fun (s, answer) => react? host deliver (next answer) s

def invoke? (react : Reaction ρ → Emitter ρ σ → Option (Emitter ρ σ)) (event : Event)
    (depth : Nat) :
    List (Registration (Listener ρ)) → Emitter ρ σ → Option (Emitter ρ σ)
  | [], s => some s
  | registration :: rest, s =>
    let reaction := registration.listener (s.callsOf registration.id) event
    let call : Invocation := ⟨registration.id, registration.name, event, depth⟩
    (react reaction { s with calls := s.calls ++ [call] }).bind (invoke? react event depth rest)

/-! ## Deliveries -/

/-- Delivers an event from within some number of reactions, with a limit on how many more may
nest. The answer is how many listeners were called. -/
def emitWithin? (host : Host ρ σ) : (limit depth : Nat) → Delivery ρ σ
  | 0, _ => fun _ _ => .none
  | limit + 1, depth => fun s event =>
    let listeners := s.registry.on event.channel
    let s := { s with emitted := s.emitted ++ [event] }
    (invoke? (react? host (emitWithin? host limit (depth + 1))) event depth listeners s).map
      fun s => (s, listeners.length)

def emit? (host : Host ρ σ) (limit : Nat) : Delivery ρ σ := emitWithin? host limit 0

def ask? (host : Host ρ σ) (limit : Nat) (s : Emitter ρ σ) (request : ρ) :
    Option (Emitter ρ σ × Nat) :=
  s.askWith? host (emit? host limit) request

end Emitter

end ControlPanel
