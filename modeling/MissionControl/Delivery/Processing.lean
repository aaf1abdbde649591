import MissionControl.Claim.Records
import MissionControl.Delivery.Settlement
import MissionControl.Envelope.Resolve
import MissionControl.Event.Handling
import MissionControl.Pool

/-!
# Processing deliveries

A delivered body is resolved to an event, the event is claimed, and it is dispatched under the
lock of its rocket.  The claim stays for an event that was handled; otherwise it is dropped, so
that the event can be delivered again.  Claiming and dispatching are a task of their own.
-/

namespace MissionControl

/-! ## Failures -/

inductive DeliveryFault where
  | unresolved (cause : ResolutionFault)
  | duplicate (eventId : String)
  | notClaimed (eventId : String) (cause : ClaimFault)
  | notDispatched (eventId : String) (cause : BusFault)
  | aborted (eventId reason : String)
  deriving Repr, DecidableEq

namespace DeliveryFault

def message : DeliveryFault → String
  | unresolved cause => cause.message
  | duplicate eventId => s!"rocket event {eventId} is a duplicate"
  | notClaimed eventId _ => s!"deduplication of rocket event {eventId} failed"
  | notDispatched eventId _ => s!"dispatch of rocket event {eventId} failed"
  | aborted eventId reason => s!"processing of rocket event {eventId} was aborted: {reason}"

def chain (e : DeliveryFault) : List String :=
  match e with
  | notClaimed _ cause => [e.message, cause.message]
  | notDispatched _ cause => e.message :: cause.chain
  | _ => [e.message]

def severity : DeliveryFault → Severity
  | unresolved _ => .info
  | duplicate _ => .info
  | notClaimed _ _ => .fatal
  | notDispatched _ cause => cause.severity
  | aborted _ _ => .fatal

def eventId? : DeliveryFault → Option String
  | unresolved _ => none
  | duplicate eventId => some eventId
  | notClaimed eventId _ => some eventId
  | notDispatched eventId _ => some eventId
  | aborted eventId _ => some eventId

end DeliveryFault

/-! ## Processing -/

/-- What processes deliveries. -/
structure Processor where
  bus : EventBus
  mutex : Mutex := {}
  /-- How long an event stays claimed. -/
  retention : Duration := ClaimRecords.defaultRetention

namespace Processor

/-- Dispatches a claimed event; drops the claim unless the event was handled. -/
def dispatchClaimed (p : Processor) (event : RocketEvent) :
    Script (Except DeliveryFault String) := do
  match ← p.bus.dispatchExclusively p.mutex event with
  | .ok () => return .ok event.eventId
  | .error cause => do
      if !cause.followsSuccess then
        let _ ← Script.perform (.forget event.eventId)
      return .error (.notDispatched event.eventId cause)

def handleOnce (p : Processor) (event : RocketEvent) :
    Script (Except DeliveryFault String) := do
  match ← Script.perform (.claim event.eventId p.retention) with
  | .error cause => return .error (.notClaimed event.eventId cause)
  | .ok false => return .error (.duplicate event.eventId)
  | .ok true => p.dispatchClaimed event

def process (p : Processor) (body : Bytes) : Script (Except DeliveryFault String) :=
  match RocketEvent.ofBody body with
  | .error cause => return .error (.unresolved cause)
  | .ok event => do
      match ← (p.handleOnce event).task with
      | .returned result => return result
      | .panicked message =>
          return .error (.aborted event.eventId (Script.abortReason message))

def verdict {ε α : Type} : Except ε α → Settlement
  | .ok _ => .acknowledged
  | .error _ => .refused

/-- Turns enough for each of some deliveries to be processed among the others. -/
def turns (p : Processor) (deliveries : Nat) : Nat :=
  deliveries * (4 * p.mutex.retrying.limit + 12)

def processAll {L C R : Type} [LockStore L] [ClaimStore C] [RocketStore R] (p : Processor)
    (bodies : List Bytes) (w : World L C R) :
    Pool L C R (Except DeliveryFault String) :=
  (Pool.start w (bodies.map p.process)).playFair (p.turns bodies.length)

def deliver (p : Processor) (body : Bytes) (settlement : Settlement) :
    Script (Except DeliveryFault String × Settlement) := do
  let result ← p.process body
  return (result, settlement.settle (verdict result))

end Processor

end MissionControl
