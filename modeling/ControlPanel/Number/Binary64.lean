/-!
# Binary64 numbers

The double-precision numbers of IEEE 754 as exact values `±m · 2^e`, with the few operations the
control panel computes with. Every result is the exact result rounded once, to the nearest number
and to the even significand on a tie (`Binary64.ofRatio`), so no machine arithmetic is involved
and each operation can be evaluated in a proof.
-/

namespace ControlPanel

/-- A double-precision number. A finite one is `±significand · 2^exponent`. -/
inductive Binary64 where
  | finite (negative : Bool) (significand : Nat) (exponent : Int)
  | infinite (negative : Bool)
  | nan
  deriving DecidableEq, Repr

namespace Binary64

/-- The exponent of the smallest numbers; a zero carries it too. -/
def minExponent : Int := -1074

def maxExponent : Int := 971

def zero (negative : Bool) : Binary64 := .finite negative 0 minExponent

/-- The whole number nearest to `num / den`, the even one of two. -/
def divNearestEven (num den : Nat) : Nat :=
  let q := num / den
  let twice := 2 * (num % den)
  if twice < den then q
  else if den < twice then q + 1
  else if q % 2 = 0 then q else q + 1

/-- `num / den · 2^(-e)` as a fraction. -/
def scaleDown (num den : Nat) (e : Int) : Nat × Nat :=
  if 0 ≤ e then (num, den <<< e.toNat) else (num <<< (-e).toNat, den)

/-- The exponent at which `num / den` has a significand of 53 bits, no less than the smallest. -/
def exponentOf (num den : Nat) : Int :=
  let guess : Int := (num.log2 : Int) - den.log2 - 52
  let scaled := scaleDown num den guess
  max minExponent (if scaled.1 < 1 <<< 52 * scaled.2 then guess - 1 else guess)

/-- A significand of at most 2^53 and its exponent, as a number; it overflows past the largest. -/
def pack (negative : Bool) (significand : Nat) (exponent : Int) : Binary64 :=
  let (m, e) :=
    if significand = 1 <<< 53 then (1 <<< 52, exponent + 1) else (significand, exponent)
  if maxExponent < e then .infinite negative else .finite negative m e

def ofRatio (negative : Bool) (num den : Nat) : Binary64 :=
  if num = 0 then zero negative
  else
    let e := exponentOf num den
    let scaled := scaleDown num den e
    pack negative (divNearestEven scaled.1 scaled.2) e

def ofScaled (negative : Bool) (significand : Nat) (exponent : Int) : Binary64 :=
  if 0 ≤ exponent then ofRatio negative (significand <<< exponent.toNat) 1
  else ofRatio negative significand (1 <<< (-exponent).toNat)

def ofNat (n : Nat) : Binary64 := ofRatio false n 1

def ofInt (i : Int) : Binary64 := ofRatio (i < 0) i.natAbs 1

def tenPow (n : Nat) : Binary64 := ofNat (Nat.pow 10 n)

def neg : Binary64 → Binary64
  | finite s m e => finite (!s) m e
  | infinite s => infinite (!s)
  | nan => nan

def isFinite : Binary64 → Bool
  | finite .. => true
  | _ => false

def isZero : Binary64 → Bool
  | finite _ m _ => m = 0
  | _ => false

def mul : Binary64 → Binary64 → Binary64
  | finite s m e, finite t n f => ofScaled (s != t) (m * n) (e + f)
  | finite s m _, infinite t => if m = 0 then nan else infinite (s != t)
  | infinite s, finite t n _ => if n = 0 then nan else infinite (s != t)
  | infinite s, infinite t => infinite (s != t)
  | nan, _ => nan
  | _, nan => nan

def div : Binary64 → Binary64 → Binary64
  | finite s m e, finite t n f =>
    if n = 0 then if m = 0 then nan else infinite (s != t)
    else if 0 ≤ e - f then ofRatio (s != t) (m <<< (e - f).toNat) n
    else ofRatio (s != t) m (n <<< (f - e).toNat)
  | finite s _ _, infinite t => zero (s != t)
  | infinite s, finite t _ _ => infinite (s != t)
  | infinite _, infinite _ => nan
  | nan, _ => nan
  | _, nan => nan

/-- The product of `acc` and `base ^ n` by repeated squaring, lowest bit of `n` first. -/
def mulPow (acc base : Binary64) (n : Nat) : Binary64 :=
  let acc := if n % 2 = 1 then mul acc base else acc
  if n / 2 = 0 then acc else mulPow acc (mul base base) (n / 2)
termination_by n
decreasing_by omega

def pow (base : Binary64) (n : Nat) : Binary64 := mulPow (ofNat 1) base n

/-- A finite number on the common grid `2^minExponent`. -/
def gridPoint (negative : Bool) (significand : Nat) (exponent : Int) : Int :=
  let magnitude : Int := (significand <<< (exponent - minExponent).toNat : Nat)
  if negative then -magnitude else magnitude

/-- The order of the numbers; nothing compares with `nan`. -/
def le : Binary64 → Binary64 → Bool
  | finite s m e, finite t n f => gridPoint s m e ≤ gridPoint t n f
  | finite .., infinite t => !t
  | infinite s, finite .. => s
  | infinite s, infinite t => s || !t
  | nan, _ => false
  | _, nan => false

/-- The whole part, where a negative number and `nan` give 0 and a large number `limit`. -/
def toNatClamped (limit : Nat) : Binary64 → Nat
  | finite true _ _ => 0
  | finite false m e =>
    min limit (if 0 ≤ e then m <<< e.toNat else m >>> (-e).toNat)
  | infinite true => 0
  | infinite false => limit
  | nan => 0

end Binary64

end ControlPanel
