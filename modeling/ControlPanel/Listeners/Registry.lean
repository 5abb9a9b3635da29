import ControlPanel.Channel.Event
import ControlPanel.Text.Quoted

/-!
# Registrations by channel

`Registry.subscribe` gives every registration a number of its own, and `Registry.on` lists the
registrations of one channel in the order in which they were made. A channel without registrations
is not kept.
-/

namespace ControlPanel

structure Registration (α : Type) where
  id : Nat
  name : String
  listener : α

structure Registry (α : Type) where
  channels : List (Channel × List (Registration α))
  nextId : Nat

namespace Registry

variable {α : Type}

def empty : Registry α := ⟨[], 0⟩

def find? (channels : List (Channel × List (Registration α))) (channel : Channel) :
    Option (List (Registration α)) :=
  match channels with
  | [] => none
  | (c, registrations) :: rest => if c = channel then some registrations else find? rest channel

def on (r : Registry α) (channel : Channel) : List (Registration α) :=
  (find? r.channels channel).getD []

def count (r : Registry α) (channel : Channel) : Nat := (r.on channel).length

def append (channels : List (Channel × List (Registration α))) (channel : Channel)
    (registration : Registration α) : List (Channel × List (Registration α)) :=
  match channels with
  | [] => [(channel, [registration])]
  | (c, registrations) :: rest =>
    if c = channel then (c, registrations ++ [registration]) :: rest
    else (c, registrations) :: append rest channel registration

def subscribe (r : Registry α) (channel : Channel) (name : String) (listener : α) :
    Registry α × Nat :=
  (⟨append r.channels channel ⟨r.nextId, name, listener⟩, r.nextId + 1⟩, r.nextId)

/-- Keeps some registrations of a channel, and drops the channel if none is left. -/
def retain (keep : Registration α → Bool) (channels : List (Channel × List (Registration α)))
    (channel : Channel) : List (Channel × List (Registration α)) :=
  match channels with
  | [] => []
  | (c, registrations) :: rest =>
    if c = channel then
      let left := registrations.filter keep
      if left.isEmpty then rest else (c, left) :: rest
    else (c, registrations) :: retain keep rest channel

/-- Removes one registration from a channel, or all of them; the answer is how many went. -/
def unsubscribe (r : Registry α) (channel : Channel) (id : Option Nat) : Registry α × Nat :=
  let keep (registration : Registration α) : Bool :=
    match id with
    | some id => registration.id != id
    | none => false
  let left : Registry α := { r with channels := retain keep r.channels channel }
  (left, r.count channel - left.count channel)

/-- Removes all registrations. Their numbers are not given again. -/
def clear (r : Registry α) : Registry α := { r with channels := [] }

def counts (r : Registry α) : List (Channel × Nat) :=
  r.channels.map fun entry => (entry.1, entry.2.length)

def total (r : Registry α) : Nat := r.counts.foldl (fun total entry => total + entry.2) 0

def idText (id : Nat) : String := "SubscriptionId(" ++ Nat.repr id ++ ")"

def text (r : Registry α) : String :=
  let entries := r.counts.map fun entry => Text.quoted entry.1.name ++ ": " ++ Nat.repr entry.2
  "EventEmitter \x7b listeners: \x7b" ++ ", ".intercalate entries ++ "\x7d \x7d"

end Registry

end ControlPanel
