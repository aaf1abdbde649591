import MissionControl.Claim.Store
import MissionControl.Register

/-!
# Claim records

A claim store in memory: under each event the time until which it is claimed.  Records that have
expired are swept out on writes, at most once a second; no answer depends on them.
-/

namespace MissionControl

/-- The claims, expired ones among them. -/
structure ClaimRecords where
  expiries : Register Instant := {}
  /-- When expired records were last swept out. -/
  swept : Instant
  deriving Repr, DecidableEq

namespace ClaimRecords

def start (now : Instant) : ClaimRecords := { swept := now }

def defaultRetention : Duration := .ofSeconds 29

def sweepPause : Duration := .ofSeconds 1

def isLive (eventId : String) (now : Instant) (records : ClaimRecords) : Bool :=
  (records.expiries.get? eventId).any fun expiry => decide (now < expiry)

/-- Sweeps out what has expired, if that was not done just now. -/
def sweep (now : Instant) (records : ClaimRecords) : ClaimRecords :=
  if (sweepPause.nanoseconds : Int) ≤ Instant.elapsed records.swept now then
    { expiries := records.expiries.keep fun expiry => decide (now < expiry), swept := now }
  else
    records

def expiry (retention : Duration) (now : Instant) : Outcome (Except ClaimFault Instant) :=
  if Instant.longestShift < retention.nanoseconds then
    .returned (.error (.invalidRetention retention))
  else
    match now.after? retention with
    | some expiry => .returned (.ok expiry)
    | none => .panicked Instant.overflow

def record (eventId : String) (expiry : Instant) (records : ClaimRecords) : ClaimRecords :=
  { records with expiries := records.expiries.put eventId expiry }

/-! ## Calls -/

/-- Whether an event is claimed; an expired record found on the way is dropped. -/
def isClaimed (eventId : String) (now : Instant) (records : ClaimRecords) :
    Bool × ClaimRecords :=
  if records.isLive eventId now then
    (true, records)
  else
    (false, { records with expiries := records.expiries.erase eventId })

def mark (eventId : String) (retention : Duration) (now : Instant) (records : ClaimRecords) :
    Outcome (Except ClaimFault Unit) × ClaimRecords :=
  match expiry retention now with
  | .panicked message => (.panicked message, records)
  | .returned (.error failure) => (.returned (.error failure), records)
  | .returned (.ok expiry) =>
      (.returned (.ok ()), (records.sweep now).record eventId expiry)

def claim (eventId : String) (retention : Duration) (now : Instant) (records : ClaimRecords) :
    Outcome (Except ClaimFault Bool) × ClaimRecords :=
  match expiry retention now with
  | .panicked message => (.panicked message, records)
  | .returned (.error failure) => (.returned (.error failure), records)
  | .returned (.ok expiry) =>
      let records := records.sweep now
      if records.isLive eventId now then
        (.returned (.ok false), records)
      else
        (.returned (.ok true), records.record eventId expiry)

def forget (eventId : String) (records : ClaimRecords) : ClaimRecords :=
  { records with expiries := records.expiries.erase eventId }

/-- A call at the time of a reading; a clock that panics leaves the records as they are. -/
def timed {α : Type} (reading : Outcome Instant)
    (call : Instant → ClaimRecords → Outcome (Except ClaimFault α) × ClaimRecords)
    (records : ClaimRecords) : Outcome (Except ClaimFault α) × ClaimRecords :=
  match reading with
  | .returned now => call now records
  | .panicked message => (.panicked message, records)

instance : ClaimStore ClaimRecords where
  claim eventId retention reading := timed reading (claim eventId retention)
  forget eventId records := (.ok (), records.forget eventId)

end ClaimRecords

end MissionControl
