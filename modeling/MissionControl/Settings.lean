import MissionControl.Claim.Records
import MissionControl.Lock.Mutex
import MissionControl.Number.Reading
import MissionControl.Number.Shortest
import MissionControl.Rocket.Guard
import MissionControl.SharedStore

/-!
# Settings

The service is set up by named values, each with a default that also stands for an empty value.
They are checked one after another, and the first fault is reported.
-/

namespace MissionControl

/-! ## Faults -/

inductive ValueFault where
  | number (fault : Number.Fault)
  | guard (violation : Violation)
  deriving Repr, DecidableEq

def ValueFault.message : ValueFault → String
  | number fault => fault.message
  | guard violation => (Refusal.brokenRule violation).message

inductive SettingsFault where
  | unreadable (name text : String) (fault : ValueFault)
  | notPositive (name : String)
  | factorOutOfRange (factor : Binary64)
  deriving Repr, DecidableEq

namespace SettingsFault

def message : SettingsFault → String
  | unreadable name text fault => s!"{name} is invalid ({Text.quoted text}): {fault.message}"
  | notPositive name => s!"{name} must be greater than zero"
  | factorOutOfRange factor =>
      s!"MUTEX_TIMEOUT_FACTOR must be between 0 and 1, got {factor.write .plain}"

end SettingsFault

inductive StartFault where
  | settings (fault : SettingsFault)
  | locks (cause : LockFault)
  | claims (cause : ClaimFault)
  deriving Repr, DecidableEq

def StartFault.message : StartFault → String
  | settings fault => s!"configuration error: {fault.message}"
  | locks cause => s!"lock store error: {cause.message}"
  | claims cause => s!"deduplication store error: {cause.message}"

/-! ## Settings -/

structure Settings where
  host : String := "0.0.0.0"
  tcpPort : Nat := 8080
  /-- The address of the store that instances share; without one they are on their own. -/
  sharedStore : Option String := none
  mutex : Mutex := {}
  /-- How long an event stays claimed. -/
  retention : Duration := ClaimRecords.defaultRetention
  guard : Guard := default
  deriving Repr, DecidableEq

namespace Settings

instance : Inhabited Settings :=
  ⟨{}⟩

def listensOn (s : Settings) : String :=
  s!"{s.host}:{s.tcpPort}"

/-! ## Reading -/

abbrev Lookup := String → Option String

/-- The text of a setting; an empty one counts as none. -/
def text? (lookup : Lookup) (name : String) : Option String :=
  (lookup name).filter fun text => !text.isEmpty

def value {α : Type} (lookup : Lookup) (name : String) (read : String → Except ValueFault α)
    (default : α) : Except SettingsFault α :=
  match text? lookup name with
  | none => .ok default
  | some text => (read text).mapError (.unreadable name text)

def readNatural (bits : Nat) (text : String) : Except ValueFault Nat :=
  (Number.parseUnsigned (Nat.pow 2 bits - 1) text).mapError .number

def readFraction (text : String) : Except ValueFault Binary64 :=
  (Number.parseFloat text).mapError .number

def readGuard (text : String) : Except ValueFault Guard :=
  (Guard.parse text).mapError .guard

def positiveSeconds (lookup : Lookup) (name : String) (default : Duration) :
    Except SettingsFault Duration := do
  let seconds ← value lookup name (readNatural 64) default.seconds
  if seconds = 0 then throw (.notPositive name)
  return .ofSeconds seconds

def attemptShare (lookup : Lookup) (default : Binary64) : Except SettingsFault Binary64 := do
  let factor ← value lookup "MUTEX_TIMEOUT_FACTOR" readFraction default
  if (Binary64.zero false).le factor && factor.le .one then
    return factor
  else
    throw (.factorOutOfRange factor)

def read (lookup : Lookup) : Except SettingsFault Settings := do
  let initial : Settings := {}
  let expiry ← positiveSeconds lookup "MUTEX_EXPIRY_SECONDS" initial.mutex.expiry
  let attemptShare ← attemptShare lookup initial.mutex.attemptShare
  let retention ← positiveSeconds lookup "DEDUP_TTL_SECONDS" initial.retention
  let tcpPort ← value lookup "PORT" (readNatural 16) initial.tcpPort
  let retries ← value lookup "MUTEX_RETRIES" (readNatural 32) initial.mutex.retries
  let retryPause ← value lookup "MUTEX_RETRY_DELAY_MS" (readNatural 64)
    initial.mutex.retryPause.milliseconds
  let guard ← value lookup "ROCKET_GUARD_POLICY" readGuard initial.guard
  return {
    host := (text? lookup "HOST").getD initial.host
    tcpPort := tcpPort
    sharedStore := text? lookup "REDIS_URL"
    mutex := {
      expiry := expiry
      retries := retries
      retryPause := .ofMilliseconds retryPause
      attemptShare := attemptShare
      service := text? lookup "MUTEX_SERVICE_PREFIX" }
    retention := retention
    guard := guard }

def connect (s : Settings) : Except StartFault (Option SharedStore) :=
  match s.sharedStore with
  | none => .ok none
  | some address => ((SharedStore.forLocks address).map some).mapError .locks

end Settings

end MissionControl
