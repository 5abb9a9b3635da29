import ControlPanel.Number.Binary64

/-!
# Shortest decimal texts

A finite number is written with the fewest significant digits that still single it out among the
binary64 numbers; among the candidates of that length the nearest is taken, the even one of two.
From `1e-5` up to `1e16` the digits are written positionally and always with a decimal point,
elsewhere with a signed exponent.
-/

namespace ControlPanel

namespace Binary64

/-- The greatest `k` with `10^k ≤ num / den`. -/
def floorLog10 (num den : Nat) : Int :=
  let guess : Int := (((num.log2 : Int) - den.log2) * 30103).fdiv 100000
  let reaches (k : Int) : Bool :=
    if 0 ≤ k then den * Nat.pow 10 k.toNat ≤ num else den ≤ num * Nat.pow 10 (-k).toNat
  if reaches (guess + 1) then guess + 1
  else if reaches guess then guess
  else if reaches (guess - 1) then guess - 1
  else guess - 2

/-- The reals that round to `significand · 2^exponent`, and the number itself, as numerators over
one denominator. The ends belong to the interval when `closed`. -/
structure RoundingInterval where
  low : Nat
  centre : Nat
  high : Nat
  den : Nat
  closed : Bool

/-- Below a power of two the neighbour is half as far away. -/
def roundingInterval (significand : Nat) (exponent : Int) : RoundingInterval :=
  let below := if significand = 1 <<< 52 ∧ minExponent < exponent then 1 else 2
  let scale := if 0 ≤ exponent then 1 <<< exponent.toNat else 1
  let den := if 0 ≤ exponent then 4 else 4 <<< (-exponent).toNat
  { low := (4 * significand - below) * scale
    centre := 4 * significand * scale
    high := (4 * significand + 2) * scale
    den := den
    closed := significand % 2 = 0 }

def RoundingInterval.bestOnGrid (r : RoundingInterval) (k : Int) : Option Nat :=
  let up := if 0 ≤ k then 1 else Nat.pow 10 (-k).toNat
  let step := if 0 ≤ k then r.den * Nat.pow 10 k.toNat else r.den
  let inside (d : Nat) : Bool :=
    if r.closed then r.low * up ≤ d * step ∧ d * step ≤ r.high * up
    else r.low * up < d * step ∧ d * step < r.high * up
  let d := r.centre * up / step
  let gapDown := r.centre * up - d * step
  let gapUp := (d + 1) * step - r.centre * up
  match inside d, inside (d + 1) with
  | true, true =>
    if gapDown < gapUp then some d
    else if gapUp < gapDown then some (d + 1)
    else if d % 2 = 0 then some d else some (d + 1)
  | true, false => some d
  | false, true => some (d + 1)
  | false, false => none

structure Decimal where
  digits : Nat
  exponent : Int
  deriving DecidableEq, Repr

/-- The first grid with a hit, from one digit to seventeen. -/
def RoundingInterval.shortest (r : RoundingInterval) (top : Int) : Nat → Decimal
  | 0 => ⟨(r.bestOnGrid (top - 16)).getD 0, top - 16⟩
  | tries + 1 =>
    let k := top - (16 - tries : Nat)
    match r.bestOnGrid k with
    | some d => ⟨d, k⟩
    | none => r.shortest top tries

def Decimal.trim (digits : Nat) (exponent : Int) : Nat → Decimal
  | 0 => ⟨digits, exponent⟩
  | fuel + 1 =>
    if digits ≠ 0 ∧ digits % 10 = 0 then trim (digits / 10) (exponent + 1) fuel
    else ⟨digits, exponent⟩

def shortestDecimal (significand : Nat) (exponent : Int) : Decimal :=
  let r := roundingInterval significand exponent
  let d := r.shortest (floorLog10 r.centre r.den) 17
  Decimal.trim d.digits d.exponent 20

/-- The text of a positive decimal. `point` is where the decimal point falls, counted in digits
from the first one. -/
def Decimal.text (d : Decimal) : String :=
  let digits := (Nat.repr d.digits).toList
  let point : Int := digits.length + d.exponent
  if 0 ≤ d.exponent ∧ point ≤ 16 then
    String.ofList (digits ++ List.replicate d.exponent.toNat '0' ++ ['.', '0'])
  else if 0 < point ∧ point ≤ 16 then
    String.ofList (digits.take point.toNat ++ '.' :: digits.drop point.toNat)
  else if -5 < point ∧ point ≤ 0 then
    String.ofList ('0' :: '.' :: List.replicate (-point).toNat '0' ++ digits)
  else
    let power := point - 1
    let mark := if power < 0 then ['e', '-'] else ['e', '+']
    let mantissa := match digits with
      | first :: second :: rest => first :: '.' :: second :: rest
      | short => short
    String.ofList (mantissa ++ mark ++ (Nat.repr power.natAbs).toList)

/-- The text of a number. Numbers that are not finite do not occur in documents; they are written
as `null`. -/
def text : Binary64 → String
  | finite s m e =>
    let magnitude := if m = 0 then "0.0" else (shortestDecimal m e).text
    if s then "-" ++ magnitude else magnitude
  | _ => "null"

end Binary64

end ControlPanel
