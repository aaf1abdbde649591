import MissionControl.Proofs.Event.Identity

/-!
# Envelopes under another name

An envelope can be resolved as an event of a type that it does not name itself.  The event is then
of that type, but its identity is the one that the envelope gives its message.  So the identity is
the event's own exactly if both names agree in lower case, as they do for a body, which is resolved
under the name in its envelope.
-/

namespace MissionControl

/-! ## Identities that differ in the type -/

theorem identity_eq_identity_iff {channel typeName other : String} {number : UInt64}
    {time : Option Instant} :
    identity channel typeName number time = identity channel other number time ↔
      Text.lowerCase typeName = Text.lowerCase other := by
  constructor
  · intro same
    have told := congrArg String.toList same
    rw [toList_identity, toList_identity] at told
    have timeless := List.append_cancel_right told
    have numberless := List.append_cancel_right timeless
    have named := List.append_cancel_left numberless
    exact String.toList_inj.mp (List.cons.inj named).2
  · intro same
    simp only [identity, legacyIdentity, same]

def RocketEvent.labelled (event : RocketEvent) (typeName : String) : String :=
  let millis := identityMilliseconds event.time
  s!"{event.rocketId}:{Text.lowerCase typeName}:{event.number}:{millis}"

theorem RocketEvent.labelled_eq (event : RocketEvent) (typeName : String) :
    event.labelled typeName = identity event.rocketId typeName event.number event.time := rfl

/-! ## Envelopes -/

namespace Envelope

variable {typeName : String} {e : Envelope} {event : RocketEvent}

theorem TellsAs.identity_eq (h : e.TellsAs typeName event) : e.identity = .ok event.eventId := by
  rw [identity, h.time, h.eventId]
  rfl

theorem TellsAs.eventId_eq (h : e.TellsAs typeName event) :
    event.eventId = event.labelled e.metadata.type := by
  rw [event.labelled_eq, h.eventId, h.channel, h.number]

/--
An event that an envelope is resolved to is of the type asked for and has the identity of the
message, which names the type as the envelope does.  It names the event's own type exactly if the
envelope names the type asked for, up to case.
-/
theorem identified_as_labelled (resolved : e.resolveAs typeName = .ok event) :
    event.kind.type.name = typeName ∧
      e.identity = .ok event.eventId ∧
      event.eventId = event.labelled e.metadata.type ∧
      (event.eventId = event.labelled event.kind.type.name ↔
        Text.lowerCase e.metadata.type = Text.lowerCase typeName) := by
  have tells := TellsAs.of_resolveAs resolved
  refine ⟨tells.type, tells.identity_eq, tells.eventId_eq, ?_⟩
  rw [tells.eventId_eq, tells.type, event.labelled_eq, event.labelled_eq,
    identity_eq_identity_iff]

def capitals : Envelope :=
  { metadata :=
      { channel := "193270a9-c9cf-404a-8f83-838e71d9ae67", number := 7
        time := some "2026-03-01T12:00:00Z", type := "ROCKETEXPLODED" }
    message := .object [("reason", .text "PRESSURE_VESSEL_FAILURE")] }

def mistaken : Envelope :=
  { capitals with metadata := { capitals.metadata with type := "RocketLaunched" } }

def explosion (label : String) : RocketEvent :=
  { kind := .exploded "PRESSURE_VESSEL_FAILURE"
    eventId := s!"193270a9-c9cf-404a-8f83-838e71d9ae67:{label}:7:1772366400000"
    rocketId := "193270a9-c9cf-404a-8f83-838e71d9ae67", number := 7
    time := some ⟨1772366400, 0⟩ }

theorem resolveAs_capitals :
    capitals.resolveAs "RocketExploded" = .ok (explosion "rocketexploded") := by
  apply eq_ok_of_toOption_eq_some
  decide +kernel

theorem capitals_identified :
    capitals.resolveAs "RocketExploded" = .ok (explosion "rocketexploded") ∧
      Text.lowerCase capitals.metadata.type = Text.lowerCase "RocketExploded" ∧
      (explosion "rocketexploded").eventId =
        (explosion "rocketexploded").labelled "RocketExploded" := by
  have lowered : Text.lowerCase capitals.metadata.type = Text.lowerCase "RocketExploded" := by
    decide +kernel
  exact ⟨resolveAs_capitals, lowered,
    (identified_as_labelled resolveAs_capitals).2.2.2.mpr lowered⟩

/-- The identity tells of a launch, and the event that bears it is an explosion. -/
theorem mistaken_identified_as_launch :
    mistaken.resolveAs "RocketExploded" = .ok (explosion "rocketlaunched") ∧
      (explosion "rocketlaunched").eventId ≠
        (explosion "rocketlaunched").labelled "RocketExploded" := by
  constructor
  · apply eq_ok_of_toOption_eq_some
    decide +kernel
  · decide +kernel

end Envelope
end MissionControl
