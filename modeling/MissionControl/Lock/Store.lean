import MissionControl.Outcome
import MissionControl.Time.Instant

/-!
# Lock stores

What the service asks of the store that keeps its locks.  A lock has a name, is granted to the
bearer of a token, and expires on its own.  A store may answer late or not at all, so a caller
says how long it waits.  A store that tells time does so by the reading that comes with the call.
-/

namespace MissionControl

/-- What the holder of a lock shows to give it back. -/
inductive Token where
  /-- One that no one else has, by its number. -/
  | fresh (number : Nat)
  /-- One chosen by the caller. -/
  | named (text : String)
  deriving Repr, DecidableEq

inductive LockFault where
  | heldByAnother
  | notHeld
  | noAnswer (patience : Duration)
  | storeFailed (reason : String)
  deriving Repr, DecidableEq

def LockFault.message : LockFault → String
  | heldByAnother => "lock is held by another owner"
  | notHeld => "lock is not held by this owner"
  | noAnswer patience => s!"lock store did not answer within {patience.text}"
  | storeFailed reason => s!"lock store backend error: {reason}"

/-- What a call on a lock store comes to. -/
inductive LockReply where
  /-- An answer that is there after some milliseconds. -/
  | answers (after : Nat) (result : Except LockFault Bool)
  | silent
  | panics (message : String)

namespace LockReply

def now (result : Except LockFault Bool) : LockReply := .answers 0 result

/-- The answer, however long it takes; silence is heard as a timeout. -/
def heard (patience : Duration) : LockReply → Outcome (Except LockFault Bool)
  | answers after result =>
      if after ≤ patience.milliseconds then .returned result
      else .returned (.error (.noAnswer patience))
  | silent => .returned (.error (.noAnswer patience))
  | panics message => .panicked message

def wait (patience : Duration) : LockReply → Nat
  | answers after _ => min after patience.milliseconds
  | silent => patience.milliseconds
  | panics _ => 0

end LockReply

/-- The calls on a lock store, as functions on its state. -/
class LockStore (σ : Type) where
  /-- Asks for the lock `name` for the bearer of a token, until an expiry has passed. -/
  acquire : (name : String) → Token → (expiry : Duration) → (reading : Outcome Instant) → σ →
    LockReply × σ
  release : (name : String) → Token → (reading : Outcome Instant) → σ → LockReply × σ

end MissionControl
