import MissionControl.Number.Binary64
import MissionControl.Script

/-!
# Retrying

An operation is tried until it succeeds or its attempts are spent, with a pause between two
attempts.  The pause varies at random about a fixed delay, so that callers who collided do not
meet again.
-/

namespace MissionControl

/-- How often to try, and how long to pause between two attempts. -/
structure RetryPlan where
  /-- Attempts in all; none counts as one. -/
  attempts : Nat := 5
  delay : Duration := .ofMilliseconds 250
  /-- The part of the delay by which a pause may be shorter or longer. -/
  jitter : Binary64 := .ofDecimal false 5 (-2)
  deriving Repr, DecidableEq

namespace RetryPlan

instance : Inhabited RetryPlan :=
  ⟨{}⟩

def limit (p : RetryPlan) : Nat := max p.attempts 1

def spread (p : RetryPlan) : Rat := p.jitter.clampToUnit.toRat

def isSteady (p : RetryPlan) : Bool := decide (p.spread = 0 ∨ p.delay = .zero)

def wait (p : RetryPlan) (x : Deviation) : Rat :=
  p.delay.nanoseconds * (1 + p.spread * x)

def pause (p : RetryPlan) : Script Unit :=
  if p.isSteady then
    Script.perform (.pause p.delay.nanoseconds)
  else do
    let x ← Script.perform .draw
    Script.perform (.pause (p.wait x))

/-- Tries an operation, which is told the number of the attempt, and retries it `left` times. -/
def attemptFrom {ε α : Type} (p : RetryPlan) (operation : Nat → Script (Except ε α)) :
    (left number : Nat) → Script (Except ε α)
  | 0, number => operation number
  | left + 1, number => do
      match ← operation number with
      | .ok value => return .ok value
      | .error _ => do
          p.pause
          attemptFrom p operation left (number + 1)

def retry {ε α : Type} (p : RetryPlan) (operation : Nat → Script (Except ε α)) :
    Script (Except ε α) :=
  p.attemptFrom operation (p.limit - 1) 1

end RetryPlan

end MissionControl
