import ControlPanel.Proofs.Number.Exactness
import ControlPanel.Realtime.Backoff
import Mathlib.Data.List.DropRight
import Mathlib.Order.Monotone.Basic

/-!
# How long the client waits

`ReconnectPolicy.delays_doubled`: of a policy that doubles, each delay is the exact product cut at
the limit, except that a wait of nothing becomes the longest one when the power of two is infinite;
delays never shrink and never exceed the limit; and whatever has been asked of a `Backoff`, its next
answer is the delay with the number of calls since the last reset, as long as attempts are left.
-/

namespace ControlPanel

namespace ReconnectPolicy

structure Doubles (policy : ReconnectPolicy) : Prop where
  multiplier : policy.multiplier = .ofNat 2
  initialDelay : policy.initialDelay ≤ 2 ^ 53
  maxDelay : policy.maxDelay ≤ 2 ^ 53

def exactDelay (policy : ReconnectPolicy) (attempt : Nat) : Nat :=
  min (policy.initialDelay * 2 ^ (attempt - 1)) policy.maxDelay

def capped (policy : ReconnectPolicy) (ms : Binary64) : Nat :=
  if !ms.isFinite || (Binary64.ofNat policy.maxDelay).le ms then policy.maxDelay
  else ms.toNatClamped delayLimit

variable {policy : ReconnectPolicy} {ms : Binary64}

theorem capped_of_not_finite (infinite : ms.isFinite = false) :
    policy.capped ms = policy.maxDelay := by
  simp [capped, infinite]

theorem capped_of_denotes {n : Nat} (denotes : ms.Denotes n) (bounded : policy.maxDelay ≤ 2 ^ 53) :
    policy.capped ms = min n policy.maxDelay := by
  have limit := Binary64.denotes_ofNat (Binary64.representable_of_le bounded)
    (Binary64.lt_range_of_le bounded)
  unfold capped
  rw [denotes.isFinite, Bool.not_true, Bool.false_or, limit.le_eq denotes]
  split
  next reached => exact (Nat.min_eq_right (of_decide_eq_true reached)).symm
  next below =>
    rw [decide_eq_true_eq] at below
    have word : n ≤ delayLimit := by
      have room : 2 ^ 53 ≤ delayLimit := by decide
      omega
    rw [denotes.toNatClamped_eq, Nat.min_eq_right word, Nat.min_eq_left (by omega)]

namespace Doubles

/-- The exponent is cut off far beyond the range of the numbers. -/
theorem exists_delay_eq (doubles : policy.Doubles) : ∃ last, 1024 ≤ last ∧
    ∀ attempt, policy.delay attempt = policy.capped
      ((Binary64.ofNat policy.initialDelay).mul (.ofNat (2 ^ min (attempt - 1) last))) := by
  refine ⟨1 <<< 31 - 1, by decide, fun attempt => ?_⟩
  rw [← Binary64.pow_ofNat_two, ← doubles.multiplier]
  rfl

theorem delay_of_zero (doubles : policy.Doubles) (zero : policy.initialDelay = 0) (attempt : Nat) :
    policy.delay attempt = if 1024 < attempt then policy.maxDelay else 0 := by
  obtain ⟨last, far, computed⟩ := doubles.exists_delay_eq
  rw [computed, zero]
  split
  next huge =>
    have large : 2 ^ 1024 ≤ 2 ^ min (attempt - 1) last := by
      gcongr
      · decide
      · omega
    rw [Binary64.ofNat_of_large large]
    exact capped_of_not_finite rfl
  next within =>
    have small : 2 ^ min (attempt - 1) last < 2 ^ 1024 := by
      gcongr
      · decide
      · omega
    have power := Binary64.denotes_ofNat (Binary64.representable_two_pow _) small
    rw [Binary64.denotes_zero.mul_eq power, Nat.zero_mul,
      capped_of_denotes Binary64.denotes_zero doubles.maxDelay, Nat.zero_min]

theorem delay_of_positive (doubles : policy.Doubles) (positive : policy.initialDelay ≠ 0)
    (attempt : Nat) : policy.delay attempt = policy.exactDelay attempt := by
  obtain ⟨last, far, computed⟩ := doubles.exists_delay_eq
  have exact := Binary64.representable_mul_two_pow doubles.initialDelay (min (attempt - 1) last)
  have product : policy.capped (.ofNat (policy.initialDelay * 2 ^ min (attempt - 1) last)) =
      min (policy.initialDelay * 2 ^ min (attempt - 1) last) policy.maxDelay := by
    rcases Nat.lt_or_ge (policy.initialDelay * 2 ^ min (attempt - 1) last) (2 ^ 1024)
      with small | large
    · exact capped_of_denotes (Binary64.denotes_ofNat exact small) doubles.maxDelay
    · have beyond := (Binary64.lt_range_of_le doubles.maxDelay).le.trans large
      rw [Binary64.ofNat_of_large large, capped_of_not_finite rfl, Nat.min_eq_right beyond]
  have reached {k : Nat} (far : 1024 ≤ k) : policy.maxDelay ≤ policy.initialDelay * 2 ^ k :=
    calc policy.maxDelay
      _ ≤ 2 ^ 53 := doubles.maxDelay
      _ ≤ 2 ^ k := Nat.pow_le_pow_right Nat.two_pos (by omega)
      _ ≤ policy.initialDelay * 2 ^ k := Nat.le_mul_of_pos_left _ (Nat.pos_of_ne_zero positive)
  rw [computed, Binary64.mul_ofNat (Binary64.representable_of_le doubles.initialDelay)
    (Binary64.representable_two_pow _) positive (Nat.two_pow_pos _).ne', product, exactDelay]
  -- a power that is cut off is beyond the limit already
  rcases Nat.le_total (attempt - 1) last with within | beyond
  · rw [Nat.min_eq_left within]
  · rw [Nat.min_eq_right beyond, Nat.min_eq_right (reached far),
      Nat.min_eq_right (reached (far.trans beyond))]

theorem delay_eq (doubles : policy.Doubles) (attempt : Nat) : policy.delay attempt =
    if policy.initialDelay = 0 ∧ 1024 < attempt then policy.maxDelay
    else policy.exactDelay attempt := by
  by_cases zero : policy.initialDelay = 0
  · simp [doubles.delay_of_zero zero, exactDelay, zero]
  · rw [doubles.delay_of_positive zero, if_neg fun both => zero both.1]

theorem delay_eq_exactDelay_iff (doubles : policy.Doubles) (attempt : Nat) :
    policy.delay attempt = policy.exactDelay attempt ↔
      ¬ (policy.initialDelay = 0 ∧ 1024 < attempt ∧ policy.maxDelay ≠ 0) := by
  by_cases zero : policy.initialDelay = 0
  · simp only [doubles.delay_of_zero zero, exactDelay, zero, Nat.zero_mul, Nat.zero_min, true_and]
    split <;> omega
  · simp [doubles.delay_of_positive zero, zero]

theorem delay_le (doubles : policy.Doubles) (attempt : Nat) :
    policy.delay attempt ≤ policy.maxDelay := by
  rw [doubles.delay_eq]
  split
  · exact Nat.le_refl _
  · exact Nat.min_le_right _ _

theorem delay_mono (doubles : policy.Doubles) : Monotone policy.delay := by
  intro earlier later le
  by_cases zero : policy.initialDelay = 0
  · simp only [doubles.delay_of_zero zero]
    split <;> split <;> omega
  · simp only [doubles.delay_of_positive zero, exactDelay]
    have power : 2 ^ (earlier - 1) ≤ 2 ^ (later - 1) :=
      Nat.pow_le_pow_right Nat.two_pos (Nat.sub_le_sub_right le 1)
    exact min_le_min_right _ (Nat.mul_le_mul_left _ power)

end Doubles

end ReconnectPolicy

/-! ## Counting the calls -/

namespace Backoff

inductive Call where
  | next
  | reset
  deriving DecidableEq

def call (b : Backoff) : Call → Backoff
  | .next => (b.next?.map Prod.snd).getD b
  | .reset => b.reset

def after (b : Backoff) (calls : List Call) : Backoff := calls.foldl call b

def sinceReset (calls : List Call) : Nat := (calls.rtakeWhile (· = .next)).length

theorem call_next_of_left {b : Backoff} (left : b.attempts < b.policy.maxAttempts) :
    b.call .next = ⟨b.policy, b.attempts + 1⟩ := by
  simp [call, next?, Nat.not_le.mpr left]

theorem call_next_of_used {b : Backoff} (used : b.policy.maxAttempts ≤ b.attempts) :
    b.call .next = b := by
  simp [call, next?, used]

theorem after_start (policy : ReconnectPolicy) (calls : List Call) :
    (start policy).after calls = ⟨policy, min (sinceReset calls) policy.maxAttempts⟩ := by
  induction calls using List.reverseRecOn with
  | nil => simp [after, start, sinceReset]
  | append_singleton calls c ih =>
    unfold after at ih ⊢
    rw [List.foldl_append, ih, List.foldl_cons, List.foldl_nil]
    cases c with
    | reset => simp [call, reset, sinceReset]
    | next =>
      have counted : sinceReset (calls ++ [.next]) = sinceReset calls + 1 := by
        simp [sinceReset]
      rw [counted]
      rcases Nat.lt_or_ge (sinceReset calls) policy.maxAttempts with left | used
      · rw [Nat.min_eq_left left.le, Nat.min_eq_left left]
        exact call_next_of_left left
      · rw [Nat.min_eq_right used, Nat.min_eq_right (used.trans (Nat.le_succ _))]
        exact call_next_of_used (Nat.le_refl _)

theorem next?_after (policy : ReconnectPolicy) (calls : List Call) :
    ((start policy).after calls).next?.map Prod.fst =
      if sinceReset calls < policy.maxAttempts then
        some (sinceReset calls + 1, policy.delay (sinceReset calls + 1))
      else none := by
  rw [after_start]
  rcases Nat.lt_or_ge (sinceReset calls) policy.maxAttempts with left | used
  · rw [Nat.min_eq_left left.le]
    simp [next?, left, Nat.not_le.mpr left]
  · rw [Nat.min_eq_right used]
    simp [next?, Nat.not_lt.mpr used]

end Backoff

namespace ReconnectPolicy

theorem delays_doubled (policy : ReconnectPolicy) (doubles : policy.Doubles) :
    (∀ attempt, policy.delay attempt =
      if policy.initialDelay = 0 ∧ 1024 < attempt then policy.maxDelay
      else policy.exactDelay attempt) ∧
    (∀ attempt, policy.delay attempt = policy.exactDelay attempt ↔
      ¬ (policy.initialDelay = 0 ∧ 1024 < attempt ∧ policy.maxDelay ≠ 0)) ∧
    Monotone policy.delay ∧
    (∀ attempt, policy.delay attempt ≤ policy.maxDelay) ∧
    ∀ calls, ((Backoff.start policy).after calls).next?.map Prod.fst =
      let made := Backoff.sinceReset calls
      if made < policy.maxAttempts then some (made + 1, policy.delay (made + 1)) else none :=
  ⟨doubles.delay_eq, doubles.delay_eq_exactDelay_iff, doubles.delay_mono, doubles.delay_le,
    Backoff.next?_after policy⟩

/-- A second, doubled up to a minute, and doubled again from the start after a reset. -/
theorem delays_doubled_default :
    default.Doubles ∧
      (List.range' 1 8).map default.delay =
        [1000, 2000, 4000, 8000, 16000, 32000, 60000, 60000] ∧
      ((Backoff.start default).after [.next, .next, .reset, .next]).next?.map Prod.fst =
        some (2, default.delay 2) := by
  have doubles : default.Doubles := ⟨rfl, by decide, by decide⟩
  obtain ⟨exact, -, -, -, told⟩ := delays_doubled default doubles
  refine ⟨doubles, ?_, told [.next, .next, .reset, .next]⟩
  rw [funext exact]
  decide

/-- Nothing is to be waited for, but the power of two is infinite. -/
theorem delay_ne_exactDelay :
    let policy := { default with initialDelay := 0 }
    policy.Doubles ∧ policy.exactDelay 1025 = 0 ∧ policy.delay 1025 = 60000 := by
  intro policy
  have doubles : policy.Doubles := ⟨rfl, by decide, by decide⟩
  refine ⟨doubles, ?_, ?_⟩
  · rw [exactDelay, Nat.zero_mul, Nat.zero_min]
  · exact (doubles.delay_of_zero rfl 1025).trans (if_pos (by decide))

end ReconnectPolicy

end ControlPanel
