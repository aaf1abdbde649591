import MissionControl.Delivery.Processing
import MissionControl.Http.Response

/-!
# Failures as responses

Every failure has a status and a code, which depend on its innermost cause that the sender or the
operator can mend; the body lists the whole chain of causes in words.
-/

namespace MissionControl
namespace Http

inductive Failure where
  | processing (cause : DeliveryFault)
  | query (cause : BusFault)
  deriving Repr, DecidableEq

structure Verdict where
  status : Nat
  code : String
  deriving Repr, DecidableEq

namespace Verdict

def ofRefusal : Refusal → Verdict
  | .notFound _ => ⟨404, "aggregate_not_found"⟩
  | .alreadyKnown _ => ⟨409, "already_exists"⟩
  | .brokenRule _ => ⟨400, "validation_error"⟩
  | .storeFailed _ => ⟨500, "infrastructure_error"⟩

def ofBus : BusFault → Verdict
  | .handlerFailed _ cause => ofRefusal cause
  | .lockFailed _ _ => ⟨500, "coordination_error"⟩
  | _ => ⟨500, "wiring_error"⟩

def ofResolution : ResolutionFault → Verdict
  | .badEnvelope _ => ⟨400, "malformed_envelope"⟩
  | .unknownType _ => ⟨400, "unknown_event_type"⟩
  | .badPayload _ _ => ⟨400, "malformed_payload"⟩

def ofDelivery : DeliveryFault → Verdict
  | .unresolved cause => ofResolution cause
  | .duplicate _ => ⟨409, "duplicate_event"⟩
  | .notClaimed _ _ => ⟨500, "deduplication_error"⟩
  | .notDispatched _ cause => ofBus cause
  | .aborted _ _ => ⟨500, "processing_aborted"⟩

end Verdict

namespace Failure

def verdict : Failure → Verdict
  | processing cause => .ofDelivery cause
  | query cause => .ofBus cause

def chain : Failure → List String
  | processing cause => cause.chain
  | query cause => cause.chain

def response (failure : Failure) : Response :=
  { status := failure.verdict.status
    body := some (.object [("error", .text failure.verdict.code),
      ("errors", .array (failure.chain.map .text))]) }

end Failure
end Http
end MissionControl
