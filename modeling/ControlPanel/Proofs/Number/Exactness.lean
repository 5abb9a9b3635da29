import ControlPanel.Number.Binary64
import Mathlib.Algebra.Order.Ring.Nat

/-!
# Whole numbers in double precision

A whole number of at most 53 bits, followed by any number of zeros, is a double-precision number
exactly (`Binary64.denotes_ofNat`) unless it is too large (`ofNat_of_large`). The product of two
such numbers is their exact product rounded once (`mul_ofNat`), so powers of two are rounded only
by overflowing (`pow_ofNat_two`); comparing such numbers and cutting them to whole ones is exact.
-/

namespace ControlPanel

theorem log2_mul_two_pow {n : Nat} (positive : n ≠ 0) (k : Nat) :
    (n * 2 ^ k).log2 = n.log2 + k := by
  rw [Nat.log2_eq_iff (Nat.mul_ne_zero positive (Nat.two_pow_pos k).ne')]
  constructor
  · rw [pow_add]
    exact Nat.mul_le_mul_right _ (Nat.log2_self_le positive)
  · rw [Nat.add_right_comm, pow_add]
    exact Nat.mul_lt_mul_of_pos_right Nat.lt_log2_self (Nat.two_pow_pos k)

theorem eq_mul_two_pow {m n u v d : Nat} (scaled : m * 2 ^ u = n * 2 ^ v) (split : v = d + u) :
    m = n * 2 ^ d := by
  rw [split, pow_add, ← Nat.mul_assoc] at scaled
  exact Nat.eq_of_mul_eq_mul_right (Nat.two_pow_pos u) scaled

namespace Binary64

variable {x y : Binary64} {a b n : Nat}

/-! ## Rounding -/

theorem divNearestEven_mul_right (num den : Nat) {c : Nat} (positive : 0 < c) :
    divNearestEven (num * c) (den * c) = divNearestEven num den := by
  unfold divNearestEven
  rw [Nat.mul_div_mul_right _ _ positive, Nat.mul_mod_mul_right]
  simp only [← Nat.mul_assoc, Nat.mul_lt_mul_right positive]

theorem divNearestEven_of_eq_mul {num den q : Nat} (positive : 0 < den) (exact : num = q * den) :
    divNearestEven num den = q := by
  have quotient : num / den = q := Nat.div_eq_of_eq_mul_left positive exact
  have rest : num % den = 0 := exact ▸ Nat.mul_mod_left q den
  simp [divNearestEven, quotient, rest, positive]

theorem scaleDown_shift (num den d : Nat) (e : Int) :
    scaleDown (num * 2 ^ d) (den * 2 ^ d) e =
      ((scaleDown num den e).1 * 2 ^ d, (scaleDown num den e).2 * 2 ^ d) := by
  unfold scaleDown
  split <;> simp only [Nat.shiftLeft_eq, Nat.mul_right_comm]

theorem exponentOf_shift {num den : Nat} (numerator : num ≠ 0) (denominator : den ≠ 0) (d : Nat) :
    exponentOf (num * 2 ^ d) (den * 2 ^ d) = exponentOf num den := by
  have guess : ((num * 2 ^ d).log2 : Int) - (den * 2 ^ d).log2 - 52 = num.log2 - den.log2 - 52 := by
    rw [log2_mul_two_pow numerator, log2_mul_two_pow denominator]
    omega
  unfold exponentOf
  simp only [guess, scaleDown_shift, ← Nat.mul_assoc, Nat.mul_lt_mul_right (Nat.two_pow_pos d)]

theorem ofRatio_shift (negative : Bool) (n d : Nat) :
    ofRatio negative (n * 2 ^ d) (2 ^ d) = ofRatio negative n 1 := by
  by_cases zero : n = 0
  · simp [zero, ofRatio]
  · have some : n * 2 ^ d ≠ 0 := Nat.mul_ne_zero zero (Nat.two_pow_pos d).ne'
    have exponent := exponentOf_shift zero Nat.one_ne_zero d
    have scaled := scaleDown_shift n 1 d (exponentOf n 1)
    rw [Nat.one_mul] at exponent scaled
    unfold ofRatio
    simp only [zero, some, if_false, exponent, scaled,
      divNearestEven_mul_right _ _ (Nat.two_pow_pos d)]

/-! ## The number of a whole number -/

theorem exponentOf_one (positive : n ≠ 0) : exponentOf n 1 = (n.log2 : Int) - 52 := by
  have leading := Nat.log2_self_le positive
  have large : ¬ (scaleDown n 1 ((n.log2 : Int) - 52)).1 <
      1 <<< 52 * (scaleDown n 1 ((n.log2 : Int) - 52)).2 := by
    rw [Nat.not_lt, Nat.one_shiftLeft]
    unfold scaleDown
    split
    next many =>
      have split : 52 + ((n.log2 : Int) - 52).toNat = n.log2 := by omega
      rwa [Nat.one_shiftLeft, ← pow_add, split]
    next few =>
      have split : 52 = n.log2 + (-((n.log2 : Int) - 52)).toNat := by omega
      rw [Nat.shiftLeft_eq, Nat.mul_one]
      conv_lhs => rw [split, pow_add]
      exact Nat.mul_le_mul_right _ leading
  have guess : (n.log2 : Int) - (1 : Nat).log2 - 52 = n.log2 - 52 := by
    rw [show (1 : Nat).log2 = 0 from rfl]
    omega
  unfold exponentOf
  simp only [guess, if_neg large]
  unfold minExponent
  omega

def Representable (n : Nat) : Prop := 2 ^ (n.log2 - 52) ∣ n

theorem representable_mul_two_pow (small : n ≤ 2 ^ 53) (k : Nat) : Representable (n * 2 ^ k) := by
  have short {m : Nat} (small : m < 2 ^ 53) (k : Nat) : Representable (m * 2 ^ k) := by
    by_cases zero : m = 0
    · simp [zero, Representable]
    · have bits := (Nat.log2_lt zero).mpr small
      unfold Representable
      rw [log2_mul_two_pow zero]
      exact Nat.dvd_mul_left_of_dvd (pow_dvd_pow 2 (by omega)) m
  rcases Nat.lt_or_eq_of_le small with less | rfl
  · exact short less k
  · have one := short (Nat.one_lt_two_pow (by decide : 53 ≠ 0)) (53 + k)
    rwa [Nat.one_mul, pow_add] at one

theorem representable_of_le (small : n ≤ 2 ^ 53) : Representable n := by
  simpa using representable_mul_two_pow small 0

theorem representable_two_pow (k : Nat) : Representable (2 ^ k) := by
  simpa using representable_mul_two_pow Nat.one_le_two_pow k

theorem lt_range_of_le (small : n ≤ 2 ^ 53) : n < 2 ^ 1024 := by
  refine Nat.lt_of_le_of_lt small ?_
  gcongr <;> decide

theorem minExponent_nonpos : minExponent ≤ 0 := by decide

/-- The number is the whole number `n`, both in units of the smallest numbers. -/
def Denotes (x : Binary64) (n : Nat) : Prop :=
  ∃ m e, x = finite false m e ∧ minExponent ≤ e ∧
    m * 2 ^ (e - minExponent).toNat = n * 2 ^ (-minExponent).toNat

theorem denotes_zero : (ofNat 0).Denotes 0 :=
  ⟨0, minExponent, rfl, Int.le_refl _, by simp⟩

theorem significand_eq (exact : Representable n) :
    let scaled := scaleDown n 1 ((n.log2 : Int) - 52)
    divNearestEven scaled.1 scaled.2 * 2 ^ n.log2 = n * 2 ^ 52 := by
  unfold scaleDown
  split
  next many =>
    obtain ⟨q, whole⟩ := exact
    have shift : ((n.log2 : Int) - 52).toNat = n.log2 - 52 := by omega
    have split : n.log2 = n.log2 - 52 + 52 := by omega
    dsimp only
    rw [shift, Nat.one_shiftLeft,
      divNearestEven_of_eq_mul (Nat.two_pow_pos _) (whole.trans (Nat.mul_comm _ _))]
    conv_lhs => rw [split, pow_add, ← Nat.mul_assoc, Nat.mul_comm q, ← whole]
  next few =>
    have split : (-((n.log2 : Int) - 52)).toNat + n.log2 = 52 := by omega
    dsimp only
    rw [Nat.shiftLeft_eq, divNearestEven_of_eq_mul Nat.one_pos (Nat.mul_one _).symm,
      Nat.mul_assoc, ← pow_add, split]

theorem denotes_ofNat (exact : Representable n) (bounded : n < 2 ^ 1024) : (ofNat n).Denotes n := by
  by_cases zero : n = 0
  · rw [zero]
    exact denotes_zero
  have bits := (Nat.log2_lt zero).mpr bounded
  have significand := significand_eq exact
  dsimp only at significand
  generalize q_eq : divNearestEven _ _ = q at significand
  have small : q < 2 ^ 53 := by
    refine Nat.lt_of_mul_lt_mul_right (a := 2 ^ n.log2) ?_
    rw [significand, ← pow_add, show 53 + n.log2 = n.log2 + 1 + 52 by omega, pow_add]
    exact Nat.mul_lt_mul_of_pos_right Nat.lt_log2_self (Nat.two_pow_pos 52)
  refine ⟨q, (n.log2 : Int) - 52, ?_, ?_, ?_⟩
  · have uncarried : q ≠ 1 <<< 53 := by
      rw [Nat.one_shiftLeft]
      exact small.ne
    have finite : ¬ maxExponent < (n.log2 : Int) - 52 := by
      unfold maxExponent
      omega
    unfold ofNat ofRatio pack
    simp only [zero, if_false, exponentOf_one zero, q_eq, uncarried, finite]
  · unfold minExponent
    omega
  · have split : ((n.log2 : Int) - 52 - minExponent).toNat = n.log2 + 1022 := by
      unfold minExponent
      omega
    have unit : (-minExponent).toNat = 52 + 1022 := rfl
    rw [split, unit, pow_add, ← Nat.mul_assoc, significand, Nat.mul_assoc, ← pow_add]

theorem ofNat_of_large (large : 2 ^ 1024 ≤ n) : ofNat n = infinite false := by
  have positive : n ≠ 0 := (Nat.lt_of_lt_of_le (Nat.two_pow_pos _) large).ne'
  have bits := (Nat.le_log2 positive).mpr large
  unfold ofNat ofRatio pack
  simp only [positive, if_false, exponentOf_one positive]
  refine if_pos ?_
  split
  all_goals
    unfold maxExponent
    omega

/-! ## Computing with whole numbers -/

namespace Denotes

theorem isFinite (denotes : x.Denotes n) : x.isFinite = true := by
  obtain ⟨m, e, rfl, -, -⟩ := denotes
  rfl

theorem le_eq (left : x.Denotes a) (right : y.Denotes b) : x.le y = decide (a ≤ b) := by
  obtain ⟨m, e, rfl, -, first⟩ := left
  obtain ⟨t, f, rfl, -, second⟩ := right
  simp only [le, gridPoint, Nat.shiftLeft_eq, first, second, Int.ofNat_le, Bool.false_eq_true,
    if_false]
  exact decide_eq_decide.mpr (Nat.mul_le_mul_right_iff (Nat.two_pow_pos _))

theorem toNatClamped_eq (denotes : x.Denotes n) (limit : Nat) :
    x.toNatClamped limit = min limit n := by
  obtain ⟨m, e, rfl, least, scaled⟩ := denotes
  have negative := minExponent_nonpos
  change min limit (if 0 ≤ e then m <<< e.toNat else m >>> (-e).toNat) = min limit n
  congr 1
  split
  next whole =>
    have shifted : n = m * 2 ^ e.toNat := eq_mul_two_pow scaled.symm (by omega)
    rw [Nat.shiftLeft_eq, shifted]
  next fraction =>
    have shifted : m = n * 2 ^ (-e).toNat := eq_mul_two_pow scaled (by omega)
    rw [shifted, Nat.shiftRight_eq_div_pow, Nat.mul_div_cancel _ (Nat.two_pow_pos _)]

theorem mul_eq (left : x.Denotes a) (right : y.Denotes b) : x.mul y = ofNat (a * b) := by
  obtain ⟨m, e, rfl, leastLeft, first⟩ := left
  obtain ⟨t, f, rfl, leastRight, second⟩ := right
  have scaled : m * t * 2 ^ ((e - minExponent).toNat + (f - minExponent).toNat) =
      a * b * 2 ^ ((-minExponent).toNat + (-minExponent).toNat) := by
    rw [pow_add, pow_add, Nat.mul_mul_mul_comm, first, second, Nat.mul_mul_mul_comm]
  have negative := minExponent_nonpos
  change ofScaled false (m * t) (e + f) = _
  unfold ofScaled
  split
  next whole =>
    have product : a * b = m * t * 2 ^ (e + f).toNat := eq_mul_two_pow scaled.symm (by omega)
    rw [Nat.shiftLeft_eq, product]
    rfl
  next fraction =>
    have product : m * t = a * b * 2 ^ (-(e + f)).toNat := eq_mul_two_pow scaled (by omega)
    rw [product, Nat.one_shiftLeft, ofRatio_shift]
    rfl

theorem significand_ne_zero {negative : Bool} {m : Nat} {e : Int}
    (denotes : (finite negative m e).Denotes n) (positive : n ≠ 0) : m ≠ 0 := by
  rintro rfl
  obtain ⟨_, _, ⟨⟩, -, scaled⟩ := denotes
  rw [Nat.zero_mul] at scaled
  exact Nat.mul_ne_zero positive (Nat.two_pow_pos _).ne' scaled.symm

theorem mul_infinite (denotes : x.Denotes n) (positive : n ≠ 0) :
    x.mul (infinite false) = infinite false ∧ (infinite false).mul x = infinite false := by
  obtain ⟨m, e, rfl, -⟩ := id denotes
  have some := denotes.significand_ne_zero positive
  exact ⟨if_neg some, if_neg some⟩

end Denotes

/-- The product of the numbers of two whole numbers is that of their product, also where these are
too large. -/
theorem mul_ofNat (left : Representable a) (right : Representable b) (leftPositive : a ≠ 0)
    (rightPositive : b ≠ 0) : (ofNat a).mul (ofNat b) = ofNat (a * b) := by
  have first : a ≤ a * b := Nat.le_mul_of_pos_right a (Nat.pos_of_ne_zero rightPositive)
  have second : b ≤ a * b := Nat.le_mul_of_pos_left b (Nat.pos_of_ne_zero leftPositive)
  rcases Nat.lt_or_ge a (2 ^ 1024) with small | large
  · have denotes := denotes_ofNat left small
    rcases Nat.lt_or_ge b (2 ^ 1024) with small | large
    · exact denotes.mul_eq (denotes_ofNat right small)
    · rw [ofNat_of_large large, ofNat_of_large (large.trans second)]
      exact (denotes.mul_infinite leftPositive).1
  · rw [ofNat_of_large large, ofNat_of_large (large.trans first)]
    rcases Nat.lt_or_ge b (2 ^ 1024) with small | large
    · exact ((denotes_ofNat right small).mul_infinite rightPositive).2
    · rw [ofNat_of_large large]
      rfl

theorem mul_ofNat_two_pow (a b : Nat) :
    (ofNat (2 ^ a)).mul (ofNat (2 ^ b)) = ofNat (2 ^ (a + b)) := by
  rw [pow_add]
  exact mul_ofNat (representable_two_pow a) (representable_two_pow b) (Nat.two_pow_pos a).ne'
    (Nat.two_pow_pos b).ne'

theorem mulPow_two_pow (a b n : Nat) :
    mulPow (ofNat (2 ^ a)) (ofNat (2 ^ b)) n = ofNat (2 ^ (a + b * n)) := by
  induction n using Nat.strongRecOn generalizing a b with
  | ind n ih =>
    -- the factor of the lowest bit of the exponent
    have factor : (if n % 2 = 1 then (ofNat (2 ^ a)).mul (ofNat (2 ^ b)) else ofNat (2 ^ a)) =
        ofNat (2 ^ (a + b * (n % 2))) := by
      split
      next odd => rw [odd, Nat.mul_one, mul_ofNat_two_pow]
      next even => rw [show n % 2 = 0 by omega, Nat.mul_zero, Nat.add_zero]
    have bits := Nat.div_add_mod n 2
    rw [mulPow, factor]
    split
    next last => rw [show n % 2 = n by omega]
    next more =>
      rw [mul_ofNat_two_pow, ih (n / 2) (by omega)]
      congr 2
      conv_rhs => rw [← bits, Nat.mul_add, ← Nat.mul_assoc, Nat.mul_two]
      omega

theorem pow_ofNat_two (n : Nat) : (ofNat 2).pow n = ofNat (2 ^ n) := by
  have power := mulPow_two_pow 0 1 n
  rwa [Nat.zero_add, Nat.one_mul] at power

end Binary64

end ControlPanel
