import ControlPanel.Number.Binary64

/-!
# Waiting between connection attempts

After a failure the client waits before it tries again, longer after each failure in a row and
never longer than a limit, and gives up after a number of attempts. `Backoff.next?` claims the
next attempt; a connection that opens resets the count.
-/

namespace ControlPanel

/-- How long to wait, in milliseconds, and how often to try. -/
structure ReconnectPolicy where
  initialDelay : Nat
  maxDelay : Nat
  multiplier : Binary64
  maxAttempts : Nat
  deriving DecidableEq, Repr

namespace ReconnectPolicy

/-- Starts with a second, doubles up to a minute, and gives up after five attempts. -/
def default : ReconnectPolicy := ⟨1000, 60000, .ofNat 2, 5⟩

def delayLimit : Nat := UInt64.size - 1

/-- The delay before an attempt, where the first has number 1. It is computed in double
precision and cut to whole milliseconds. -/
def delay (policy : ReconnectPolicy) (attempt : Nat) : Nat :=
  let ms := (Binary64.ofNat policy.initialDelay).mul
    (policy.multiplier.pow (min (attempt - 1) (1 <<< 31 - 1)))
  if !ms.isFinite || (Binary64.ofNat policy.maxDelay).le ms then policy.maxDelay
  else ms.toNatClamped delayLimit

end ReconnectPolicy

structure Backoff where
  policy : ReconnectPolicy
  attempts : Nat
  deriving DecidableEq, Repr

namespace Backoff

def start (policy : ReconnectPolicy) : Backoff := ⟨policy, 0⟩

/-- The number of the next attempt and the delay before it, as long as attempts are left. -/
def next? (b : Backoff) : Option ((Nat × Nat) × Backoff) :=
  if b.policy.maxAttempts ≤ b.attempts then none
  else
    let attempt := b.attempts + 1
    some ((attempt, b.policy.delay attempt), { b with attempts := attempt })

def reset (b : Backoff) : Backoff := { b with attempts := 0 }

end Backoff

end ControlPanel
