import MissionControl.Outcome
import MissionControl.Time.Instant

/-!
# Claim stores

What the service asks of the store in which deliveries claim the events that they are about to
handle.  A claim keeps other deliveries of the event out until it is dropped or has expired.  A
store that tells time does so by the reading that comes with the call.
-/

namespace MissionControl

inductive ClaimFault where
  | invalidRetention (retention : Duration)
  | storeFailed (reason : String)
  deriving Repr, DecidableEq

def ClaimFault.message : ClaimFault → String
  | invalidRetention retention => s!"invalid deduplication ttl: {retention.text}"
  | storeFailed reason => s!"deduplication store error: {reason}"

/-- The calls on a claim store, as functions on its state. -/
class ClaimStore (σ : Type) where
  /-- Claims an event, unless it is claimed already; answers whether it did. -/
  claim : (eventId : String) → (retention : Duration) → (reading : Outcome Instant) → σ →
    Outcome (Except ClaimFault Bool) × σ
  forget : (eventId : String) → σ → Except ClaimFault Unit × σ

end MissionControl
