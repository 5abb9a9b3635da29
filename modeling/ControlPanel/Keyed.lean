/-!
# Values by key

Finite maps from strings, kept as lists of pairs. `Keyed.insert` keeps the keys strictly
increasing, so equal maps are equal lists, and replaces the value of a key that is there already.
-/

namespace ControlPanel

/-- Values by strictly increasing key. -/
abbrev Keyed (α : Type) := List (String × α)

namespace Keyed

variable {α : Type}

def find? (map : Keyed α) (key : String) : Option α :=
  match map with
  | [] => none
  | (k, v) :: rest => if k = key then some v else find? rest key

def contains (map : Keyed α) (key : String) : Bool := (map.find? key).isSome

def insert (map : Keyed α) (key : String) (value : α) : Keyed α :=
  match map with
  | [] => [(key, value)]
  | (k, v) :: rest =>
    if key < k then (key, value) :: (k, v) :: rest
    else if key = k then (key, value) :: rest
    else (k, v) :: insert rest key value

/-- The pairs of a list, the last of equal keys. -/
def ofList (pairs : List (String × α)) : Keyed α :=
  pairs.foldl (fun map pair => map.insert pair.1 pair.2) []

def Sorted (map : Keyed α) : Prop := map.Pairwise fun a b => a.1 < b.1

end Keyed

end ControlPanel
