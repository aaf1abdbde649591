import MissionControl.Lock.Store
import MissionControl.Register

/-!
# Leases

A lock store in memory.  A lease is granted if no other bearer holds an unexpired one under the
name, and its holder may renew it.  An expiry too far away to be told breaks the store for good:
every later call on it fails.
-/

namespace MissionControl

structure Lease where
  token : Token
  expires : Instant
  deriving Repr, DecidableEq

namespace Lease

def isLive (lease : Lease) (now : Instant) : Bool := decide (now < lease.expires)

end Lease

/-- The leases granted and not given back, expired ones among them. -/
structure Leases where
  granted : Register Lease := {}
  isBroken : Bool := false
  deriving Repr, DecidableEq

namespace Leases

instance : Inhabited Leases :=
  ⟨{}⟩

def broken : LockFault := .storeFailed "lease map poisoned"

def invalidExpiry : LockFault :=
  .storeFailed "invalid expiry: Source duration value is out of range for the target type"

/-! ## Calls -/

def acquire (name : String) (token : Token) (expiry : Duration) (now : Instant)
    (leases : Leases) : LockReply × Leases :=
  if Instant.longestShift < expiry.nanoseconds then
    (.now (.error invalidExpiry), leases)
  else if leases.isBroken then
    (.now (.error broken), leases)
  else if (leases.granted.get? name).any fun lease => lease.isLive now && lease.token ≠ token then
    (.now (.ok false), leases)
  else
    match now.after? expiry with
    | some expires =>
        (.now (.ok true), { leases with granted := leases.granted.put name ⟨token, expires⟩ })
    | none => (.panics Instant.overflow, { leases with isBroken := true })

def release (name : String) (token : Token) (now : Instant) (leases : Leases) :
    LockReply × Leases :=
  if leases.isBroken then
    (.now (.error broken), leases)
  else if (leases.granted.get? name).any fun lease => lease.isLive now && lease.token = token then
    (.now (.ok true), { leases with granted := leases.granted.erase name })
  else
    (.now (.ok false), leases)

def isHeld (name : String) (now : Instant) (leases : Leases) : Except LockFault Bool :=
  if leases.isBroken then
    .error broken
  else
    .ok ((leases.granted.get? name).any (·.isLive now))

/-- A call at the time of a reading; a clock that panics leaves the leases as they are. -/
def timed (reading : Outcome Instant) (call : Instant → Leases → LockReply × Leases)
    (leases : Leases) : LockReply × Leases :=
  match reading with
  | .returned now => call now leases
  | .panicked message => (.panics message, leases)

instance : LockStore Leases where
  acquire name token expiry reading := timed reading (acquire name token expiry)
  release name token reading := timed reading (release name token)

end Leases

end MissionControl
