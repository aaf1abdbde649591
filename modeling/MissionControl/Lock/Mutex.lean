import MissionControl.Retry
import MissionControl.Time.Scaling

/-!
# Mutual exclusion

A procedure runs under a lock: the lock is acquired, the procedure runs as a task of its own, and
the lock is given back.  Acquiring and giving back are each retried and each attempt waits for its
answer only for a part of the expiry.  What the procedure came to is told apart from what became
of the lock.  The procedure is made by a callback, which is called once the lock is granted; a
panic of this call, unlike one of the procedure, leaves the lock held.
-/

namespace MissionControl

/-! ## Failures -/

inductive MutexFault where
  /-- The lock was not granted; the procedure did not run. -/
  | notAcquired (lock : String) (cause : LockFault)
  /-- The procedure ran, but the lock was not given back. -/
  | notReleased (lock : String) (succeeded : Bool) (cause : LockFault)
  /-- The procedure, or giving the lock back, panicked. -/
  | aborted (lock reason : String)
  deriving Repr, DecidableEq

namespace MutexFault

def message : MutexFault → String
  | notAcquired lock _ => s!"an error occurred while acquiring lock {lock}"
  | notReleased lock _ _ => s!"an error occurred while releasing lock {lock}"
  | aborted lock reason => s!"locked operation on {lock} was aborted: {reason}"

def chain (e : MutexFault) : List String :=
  match e with
  | notAcquired _ cause => [e.message, cause.message]
  | notReleased _ _ cause => [e.message, cause.message]
  | aborted _ _ => [e.message]

def severity : MutexFault → Severity
  | notReleased _ _ _ => .critical
  | _ => .fatal

/-- Whether the procedure ran and succeeded all the same. -/
def followsSuccess : MutexFault → Bool
  | notReleased _ succeeded _ => succeeded
  | _ => false

end MutexFault

/-! ## Settings -/

/-- How locks are asked for. -/
structure Mutex where
  /-- How long a granted lock lasts if it is not given back. -/
  expiry : Duration := .ofSeconds 30
  /-- Attempts to acquire a lock, and again to give it back. -/
  retries : Nat := 5
  retryPause : Duration := .ofMilliseconds 250
  /-- The part of the expiry that one attempt may take, and the jitter of the pauses. -/
  attemptShare : Binary64 := .ofDecimal false 5 (-2)
  /-- Sets the locks of one service apart from those of others. -/
  service : Option String := none
  deriving Repr, DecidableEq

namespace Mutex

instance : Inhabited Mutex :=
  ⟨{}⟩

def retrying (m : Mutex) : RetryPlan :=
  { attempts := m.retries, delay := m.retryPause, jitter := m.attemptShare }

/-- How long one attempt waits for its answer: a part of the expiry, or all of it if that part
is nothing. -/
def patience (m : Mutex) : Duration :=
  let part := m.expiry.scaled m.attemptShare.clampToUnit
  if part = .zero then m.expiry else part

def lockRoot : String := "distributed-sync-mutex"

def lockFor (m : Mutex) (key : String) : String :=
  match m.service with
  | some service => if service.isEmpty then s!"{lockRoot}:{key}" else s!"{lockRoot}:{service}:{key}"
  | none => s!"{lockRoot}:{key}"

/-! ## Locks -/

def granted (refusal : LockFault) : Except LockFault Bool → Except LockFault Unit
  | .ok true => .ok ()
  | .ok false => .error refusal
  | .error failure => .error failure

def acquire (m : Mutex) (name : String) (token : Token) : Script (Except LockFault Unit) :=
  m.retrying.retry fun _ => do
    let answer ← Script.perform (.acquire name token m.expiry m.patience)
    return granted .heldByAnother answer

def release (m : Mutex) (name : String) (token : Token) : Script (Except LockFault Unit) :=
  m.retrying.retry fun _ => do
    let answer ← Script.perform (.release name token m.patience)
    return granted .notHeld answer

/-- Gives a lock back that may have been granted without an answer; makes one attempt. -/
def giveUp (m : Mutex) (name : String) (token : Token) : Script Unit := do
  let _ ← Script.perform (.release name token m.patience)

def succeeded {ε α : Type} : Outcome (Except ε α) → Bool
  | .returned (.ok _) => true
  | _ => false

/--
What a procedure under a lock comes to, from what the procedure came to and whether the lock was
given back; a lock that was not is the worse failure.
-/
def settle {ε α : Type} (name : String) :
    Outcome (Except ε α) → Except LockFault Unit → Except MutexFault (Except ε α)
  | result, .error cause => .error (.notReleased name (succeeded result) cause)
  | .returned result, .ok () => .ok result
  | .panicked message, .ok () => .error (.aborted name (Script.abortReason message))

/-- A procedure followed by giving the lock back. -/
def lockedSection {ε α : Type} (m : Mutex) (name : String) (token : Token)
    (operation : Script (Except ε α)) : Script (Except MutexFault (Except ε α)) := do
  let result ← operation.task
  let released ← m.release name token
  return settle name result released

/--
What a caller hands over to be run under a lock.  Calling it gives the procedure, and may itself
make calls or panic.
-/
abbrev Callback (ε α : Type) := Script (Script (Except ε α))

/--
A callback followed by what it gives and by giving the lock back.  The call is made in the section
itself, not in a task: if it panics, the lock is not given back.
-/
def calledSection {ε α : Type} (m : Mutex) (name : String) (token : Token)
    (callback : Callback ε α) : Script (Except MutexFault (Except ε α)) := do
  let operation ← callback
  m.lockedSection name token operation

def callExclusively {ε α : Type} (m : Mutex) (key : String) (callback : Callback ε α) :
    Script (Except MutexFault (Except ε α)) := do
  let name := m.lockFor key
  let token ← Script.perform .newToken
  match ← m.acquire name token with
  | .error cause => do
      m.giveUp name token
      return .error (.notAcquired name cause)
  | .ok () =>
      match ← (m.calledSection name token callback).task with
      | .returned result => return result
      | .panicked message => return .error (.aborted name (Script.abortReason message))

/-- Runs a procedure under the lock for a key; there is nothing to its being called. -/
def exclusively {ε α : Type} (m : Mutex) (key : String) (operation : Script (Except ε α)) :
    Script (Except MutexFault (Except ε α)) :=
  m.callExclusively key (.done operation)

end Mutex

end MissionControl
