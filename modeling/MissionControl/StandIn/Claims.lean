import MissionControl.Claim.Records

/-!
# Claim stores that stand in for a real one

A claim store that is out of reach, and one that claims but cannot forget.
-/

namespace MissionControl

inductive AnyClaims where
  | records (records : ClaimRecords)
  /-- Every call fails. -/
  | unreachable
  /-- Claims are never dropped. -/
  | unforgetting (records : ClaimRecords)
  deriving Repr, DecidableEq

namespace AnyClaims

def refused : ClaimFault := .storeFailed "connection refused"

def timed {α : Type} (reading : Outcome Instant)
    (call : Instant → ClaimRecords → Outcome (Except ClaimFault α) × ClaimRecords) :
    AnyClaims → Outcome (Except ClaimFault α) × AnyClaims
  | records store => (store.timed reading call).map id records
  | unreachable => (.returned (.error refused), unreachable)
  | unforgetting store => (store.timed reading call).map id unforgetting

def isClaimed (eventId : String) (reading : Outcome Instant) :
    AnyClaims → Outcome (Except ClaimFault Bool) × AnyClaims :=
  timed reading fun now store => (store.isClaimed eventId now).map (.returned <| .ok ·) id

def mark (eventId : String) (retention : Duration) (reading : Outcome Instant) :
    AnyClaims → Outcome (Except ClaimFault Unit) × AnyClaims :=
  timed reading (ClaimRecords.mark eventId retention)

instance : ClaimStore AnyClaims where
  claim eventId retention reading := timed reading (ClaimRecords.claim eventId retention)
  forget eventId
    | records store => (.ok (), records (store.forget eventId))
    | unreachable => (.error refused, unreachable)
    | unforgetting store => (.error (.storeFailed "connection reset"), unforgetting store)

end AnyClaims

end MissionControl
