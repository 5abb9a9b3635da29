import ControlPanel.Keyed
import ControlPanel.Number.Shortest

/-!
# JSON values

Documents as values. A whole number within the range of 64-bit words stays an integer, every other
number is a binary64. The members of an object are kept by strictly increasing key
(`Json.Canonical`), so two documents with the same members are equal.
-/

namespace ControlPanel

inductive Number where
  | int (value : Int)
  | float (value : Binary64)
  deriving DecidableEq, Repr

inductive Json where
  | null
  | bool (value : Bool)
  | number (value : Number)
  | string (value : String)
  | array (items : List Json)
  | object (members : List (String × Json))
  deriving Repr, Inhabited

abbrev Members := Keyed Json

namespace Number

/-- The least integer that is kept as one. -/
def minInt : Int := -(Int.pow 2 63)

/-- The greatest integer that is kept as one. -/
def maxInt : Int := Int.pow 2 64 - 1

/-- A natural number below 2^64. -/
def natural? : Number → Option Nat
  | int i => if 0 ≤ i ∧ i ≤ maxInt then some i.toNat else none
  | float _ => none

def toBinary64 : Number → Binary64
  | int i => Binary64.ofInt i
  | float x => x

def text : Number → String
  | int i => if i < 0 then "-" ++ Nat.repr i.natAbs else Nat.repr i.natAbs
  | float x => x.text

end Number

namespace Json

def int (i : Int) : Json := .number (.int i)

def nat (n : Nat) : Json := .number (.int n)

def ofMembers (pairs : List (String × Json)) : Json := .object (Keyed.ofList pairs)

/-- A member that is left out when there is no value. -/
def member? {α : Type} (key : String) (write : α → Json) : Option α → List (String × Json)
  | none => []
  | some a => [(key, write a)]

def ofOption {α : Type} (write : α → Json) : Option α → Json
  | none => .null
  | some a => write a

def string? : Json → Option String
  | .string s => some s
  | _ => none

def isString : Json → Bool
  | .string _ => true
  | _ => false

def natural? : Json → Option Nat
  | .number n => n.natural?
  | _ => none

def isNull : Json → Bool
  | .null => true
  | _ => false

mutual

/-- The keys of every object in the value increase strictly. -/
def Canonical : Json → Prop
  | .null | .bool _ | .number _ | .string _ => True
  | .array items => CanonicalItems items
  | .object members => Keyed.Sorted members ∧ CanonicalMembers members

def CanonicalItems : List Json → Prop
  | [] => True
  | v :: rest => v.Canonical ∧ CanonicalItems rest

def CanonicalMembers : List (String × Json) → Prop
  | [] => True
  | (_, v) :: rest => v.Canonical ∧ CanonicalMembers rest

end

end Json

end ControlPanel
