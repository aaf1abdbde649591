import MissionControl.Envelope.Basic

/-!
# Resolving envelopes

From the bytes of a message to the event that it tells of: the envelope is read first, then its
type is looked up, then the payload is read, and last the time.
-/

namespace MissionControl

inductive PayloadFault where
  | content (cause : Json.ReadFault)
  | time (cause : Time.Rfc3339.Fault)
  /-- A fault found elsewhere, in its own words. -/
  | stated (reason : String)
  deriving Repr, DecidableEq

def PayloadFault.message : PayloadFault → String
  | content cause => s!"content conversion failed: {cause.message}"
  | time cause => s!"rocket message metadata time parsing failed: {cause.message}"
  | stated reason => reason

inductive ResolutionFault where
  | badEnvelope (cause : Json.ReadFault)
  | unknownType (name : String)
  | badPayload (typeName : String) (fault : PayloadFault)
  deriving Repr, DecidableEq

def ResolutionFault.message : ResolutionFault → String
  | badEnvelope cause => s!"failed to parse rocket message envelope: {cause.message}"
  | unknownType name =>
      let known := Text.commaSeparated (EventType.all.map EventType.name)
      s!"unable to resolve rocket event type {Text.quoted name}, expected one of {known}"
  | badPayload typeName fault => s!"failed to parse {typeName} event: {fault.message}"

namespace Envelope

/--
The event of the named type that an envelope tells of.  Its identity is that of the envelope, also
where the envelope names another type.
-/
def resolveAs (typeName : String) (e : Envelope) : Except ResolutionFault RocketEvent :=
  match EventType.ofName? typeName with
  | none => .error (.unknownType typeName)
  | some type =>
      match Payload.read type e.message with
      | .error cause => .error (.badPayload typeName (.content cause))
      | .ok kind =>
          match e.time with
          | .error cause => .error (.badPayload typeName (.time cause))
          | .ok time =>
              .ok {
                kind := kind
                eventId := MissionControl.identity e.metadata.channel e.metadata.type
                  e.metadata.number time
                rocketId := e.metadata.channel
                number := e.metadata.number
                time := time }

def resolve (e : Envelope) : Except ResolutionFault RocketEvent :=
  e.resolveAs e.metadata.type

end Envelope

namespace RocketEvent

def ofBody (body : Bytes) : Except ResolutionFault RocketEvent :=
  match Envelope.parse body with
  | .error cause => .error (.badEnvelope cause)
  | .ok envelope => envelope.resolve

end RocketEvent

end MissionControl
