import MissionControl.Envelope.Resolve
import MissionControl.Proofs.Checked

/-!
# What an accepted body tells

An envelope tells of an event if its type has the name of the event's type, its message reads as
the payload and its time can be read.  The identity is then the one that the fields of the event
give.
-/

namespace MissionControl

/-! ## Types and payloads -/

namespace EventType

theorem ofName?_name (type : EventType) : ofName? type.name = some type := by
  cases type <;> decide

theorem name_of_ofName? {name : String} {type : EventType} (h : ofName? name = some type) :
    type.name = name := by
  simpa using List.find?_some h

end EventType

namespace Payload

theorem kind_of_finish {type : EventType} {source : Source} {kind found : EventKind}
    (h : (do
      let kind ← (pure kind : Except Json.ReadFault EventKind)
      source.finish type
      return kind) = .ok found) : found = kind := by
  rcases exists_of_bind_eq_ok h with ⟨same, told, h⟩
  rcases exists_of_bind_eq_ok h with ⟨_, _, h⟩
  cases told
  cases h
  rfl

theorem type_of_read {type : EventType} {message : Json} {kind : EventKind}
    (h : read type message = .ok kind) : kind.type = type := by
  rcases exists_of_bind_eq_ok h with ⟨source, _, h⟩
  cases type with
  | launched =>
      rcases exists_of_bind_eq_ok h with ⟨rocketType, _, h⟩
      rcases exists_of_bind_eq_ok h with ⟨launchSpeed, _, h⟩
      rcases exists_of_bind_eq_ok h with ⟨mission, _, h⟩
      rw [kind_of_finish h]
      rfl
  | exploded =>
      rcases exists_of_bind_eq_ok h with ⟨reason, _, h⟩
      rw [kind_of_finish h]
      rfl
  | missionChanged =>
      rcases exists_of_bind_eq_ok h with ⟨newMission, _, h⟩
      rw [kind_of_finish h]
      rfl
  | speedIncreased =>
      rcases exists_of_bind_eq_ok h with ⟨amount, _, h⟩
      rw [kind_of_finish h]
      rfl
  | speedDecreased =>
      rcases exists_of_bind_eq_ok h with ⟨amount, _, h⟩
      rw [kind_of_finish h]
      rfl

end Payload

/-! ## Envelopes -/

namespace Envelope

/--
What an envelope tells when it is resolved as an event of a named type: the name decides how the
message is read, and all the rest is what the envelope says.
-/
structure TellsAs (typeName : String) (e : Envelope) (event : RocketEvent) : Prop where
  type : event.kind.type.name = typeName
  payload : Payload.read event.kind.type e.message = .ok event.kind
  time : e.time = .ok event.time
  channel : event.rocketId = e.metadata.channel
  number : event.number = e.metadata.number
  eventId : event.eventId =
    MissionControl.identity e.metadata.channel e.metadata.type e.metadata.number event.time

theorem TellsAs.of_resolveAs {typeName : String} {e : Envelope} {event : RocketEvent}
    (h : e.resolveAs typeName = .ok event) : e.TellsAs typeName event := by
  unfold resolveAs at h
  cases known : EventType.ofName? typeName with
  | none =>
      rw [known] at h
      cases h
  | some type =>
      have name := EventType.name_of_ofName? known
      cases read : Payload.read type e.message with
      | error cause =>
          simp only [known, read] at h
          cases h
      | ok kind =>
          cases moment : e.time with
          | error cause =>
              simp only [known, read, moment] at h
              cases h
          | ok time =>
              simp only [known, read, moment] at h
              cases h
              have same := Payload.type_of_read read
              subst same
              exact ⟨name, read, moment, rfl, rfl, rfl⟩

structure Tells (e : Envelope) (event : RocketEvent) : Prop where
  type : e.metadata.type = event.kind.type.name
  payload : Payload.read event.kind.type e.message = .ok event.kind
  time : e.time = .ok event.time
  own : event = .ofFields event.kind e.metadata.channel e.metadata.number event.time

theorem Tells.of_resolve {e : Envelope} {event : RocketEvent} (h : e.resolve = .ok event) :
    e.Tells event := by
  have tells := TellsAs.of_resolveAs h
  constructor
  · exact tells.type.symm
  · exact tells.payload
  · exact tells.time
  · rcases event with ⟨kind, eventId, rocketId, number, time⟩
    simp only [RocketEvent.ofFields, RocketEvent.mk.injEq, true_and, and_true, tells.type]
    exact ⟨tells.eventId, tells.channel, tells.number⟩

theorem resolve_of_read {e : Envelope} {kind : EventKind} (type : e.metadata.type = kind.type.name)
    (read : Payload.read kind.type e.message = .ok kind) :
    e.resolve = match e.time with
      | .error cause => .error (.badPayload kind.type.name (.time cause))
      | .ok time => .ok (.ofFields kind e.metadata.channel e.metadata.number time) := by
  unfold resolve resolveAs
  rw [type, EventType.ofName?_name]
  simp only [read]
  rfl

end Envelope

/-! ## Bodies -/

namespace RocketEvent

theorem exists_envelope_of_ofBody {body : Bytes} {event : RocketEvent}
    (h : ofBody body = .ok event) : ∃ e, Envelope.parse body = .ok e ∧ e.Tells event := by
  unfold ofBody at h
  cases parsed : Envelope.parse body with
  | error cause =>
      rw [parsed] at h
      cases h
  | ok e =>
      rw [parsed] at h
      exact ⟨e, rfl, .of_resolve h⟩

/-- An event that was accepted is the one that its fields give. -/
theorem eq_ofFields_of_ofBody {body : Bytes} {event : RocketEvent} (h : ofBody body = .ok event) :
    event = .ofFields event.kind event.rocketId event.number event.time := by
  rcases exists_envelope_of_ofBody h with ⟨e, _, tells⟩
  have channel : event.rocketId = e.metadata.channel := congrArg rocketId tells.own
  have number : event.number = e.metadata.number := congrArg RocketEvent.number tells.own
  rw [channel, number]
  exact tells.own

end RocketEvent

end MissionControl
