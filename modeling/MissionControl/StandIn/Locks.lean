import MissionControl.Lock.Leases

/-!
# Lock stores that stand in for a real one

To see how the service copes, its lock store can be exchanged for one that is out of reach, one
that never takes a lock back, or one that answers as it was told and keeps a log of its calls.
-/

namespace MissionControl

/-! ## Told answers -/

inductive LockAnswer where
  | yes
  | no
  | fails (reason : String)
  | hangs
  /-- Yes, after some milliseconds. -/
  | slow (milliseconds : Nat)
  | panics
  deriving Repr, DecidableEq

def LockAnswer.reply : LockAnswer → LockReply
  | yes => .now (.ok true)
  | no => .now (.ok false)
  | fails reason => .now (.error (.storeFailed reason))
  | hangs => .silent
  | slow milliseconds => .answers milliseconds (.ok true)
  | panics => .panics "lock store blew up"

/-- The answer that is due, and those after it; the last one is given again and again. -/
def LockAnswer.next : List LockAnswer → LockAnswer × List LockAnswer
  | [] => (yes, [])
  | [last] => (last, [last])
  | answer :: answers => (answer, answers)

inductive LockCall where
  | acquire (name : String) (owner : Nat) (expiry : Duration)
  | release (name : String) (owner : Nat)
  deriving Repr, DecidableEq

/-- A lock store that answers as it was told. -/
structure ToldLocks where
  acquires : List LockAnswer := []
  releases : List LockAnswer := []
  /-- The tokens seen so far, in the order in which they first appeared. -/
  owners : List Token := []
  /-- The calls since the log was last read. -/
  log : List LockCall := []
  deriving Repr, DecidableEq

namespace ToldLocks

def owner (token : Token) (store : ToldLocks) : Nat × List Token :=
  if token ∈ store.owners then
    (store.owners.idxOf token, store.owners)
  else
    (store.owners.length, store.owners ++ [token])

def acquire (name : String) (token : Token) (expiry : Duration) (store : ToldLocks) :
    LockReply × ToldLocks :=
  let (answer, acquires) := LockAnswer.next store.acquires
  let (number, owners) := store.owner token
  (answer.reply,
    { store with acquires, owners, log := store.log ++ [.acquire name number expiry] })

def release (name : String) (token : Token) (store : ToldLocks) : LockReply × ToldLocks :=
  let (answer, releases) := LockAnswer.next store.releases
  let (number, owners) := store.owner token
  (answer.reply, { store with releases, owners, log := store.log ++ [.release name number] })

end ToldLocks

/-! ## The choice -/

inductive AnyLocks where
  | leases (leases : Leases)
  /-- Every call fails. -/
  | unreachable
  /-- Every lock is granted, and none is taken back. -/
  | unreleasable
  | told (store : ToldLocks)
  deriving Repr, DecidableEq

namespace AnyLocks

instance : Inhabited AnyLocks :=
  ⟨.leases {}⟩

def refused : LockReply := .now (.error (.storeFailed "connection refused"))

instance : LockStore AnyLocks where
  acquire name token expiry reading
    | leases store => (LockStore.acquire name token expiry reading store).map id leases
    | unreachable => (refused, unreachable)
    | unreleasable => (.now (.ok true), unreleasable)
    | told store => (store.acquire name token expiry).map id told
  release name token reading
    | leases store => (LockStore.release name token reading store).map id leases
    | unreachable => (refused, unreachable)
    | unreleasable => (.now (.error (.storeFailed "connection reset")), unreleasable)
    | told store => (store.release name token).map id told

/-- Whether anyone holds a lock in memory; another store keeps none there. -/
def isHeld (name : String) (reading : Outcome Instant) (locks : AnyLocks) :
    Outcome (Except LockFault Bool) :=
  reading.map fun now =>
    match locks with
    | leases store => store.isHeld name now
    | _ => .ok false

end AnyLocks

end MissionControl
