import MissionControl.Proofs.Event.Resolution
import MissionControl.Proofs.Json.Documents
import MissionControl.Proofs.Json.Records

/-!
# Envelopes as they are written

The envelope of an event is read back as it was written, and its message as the payload that it was
made of.
-/

namespace MissionControl

open Json (Document ReadFault)

/-! ## Integers -/

theorem Json.Number.toInt_of_holds {width : Json.Width} {n : Int} (holds : width.holds n = true) :
    toInt width (.integer n) = .ok n :=
  if_pos holds

theorem Json.Document.readInt_ofInt {width : Json.Width} {n : Int}
    (holds : width.holds n = true) : (number (.ofInt n)).readInt width = .ok n := by
  have value : (Json.Numeral.ofInt n).value = .ok (.integer n) := by
    cases width with
    | unsigned =>
        have range := of_decide_eq_true holds
        exact Json.Numeral.value_ofInt (by omega) (by omega)
    | signed =>
        have range := of_decide_eq_true holds
        exact Json.Numeral.value_ofInt (by omega) (by omega)
  show Document.lifted _ >>= Json.Number.toInt width = _
  rw [value]
  exact Json.Number.toInt_of_holds holds

theorem holds_toNat (n : UInt64) : Json.Width.unsigned.holds n.toNat = true := by
  have bound := n.toNat_lt
  apply decide_eq_true
  omega

theorem holds_toInt (n : Int64) : Json.Width.signed.holds n.toInt = true := by
  have least := n.le_toInt
  have bound := n.toInt_lt
  apply decide_eq_true
  omega

theorem readValue_ofInt (readEnclosed : String → Except ReadFault Json) (depth : Nat) (n : Int64) :
    (Document.number (.ofInt n.toInt)).readValue readEnclosed depth = .ok (.integer n.toInt) := by
  have least := n.le_toInt
  have bound := n.toInt_lt
  rw [Document.readValue, Json.Numeral.value_ofInt (by omega) (by omega)]

/-! ## Metadata -/

namespace Metadata

theorem readNumber_ofInt (value : UInt64) :
    readNumber (.number (.ofInt value.toNat)) = .ok value := by
  unfold readNumber
  rw [Document.readInt_ofInt (holds_toNat value)]
  simp [Except.map]

def written (m : Metadata) : List Json.Member :=
  [(.ok "channel", .text (.ok m.channel)),
    (.ok "messageNumber", .number (.ofInt m.number.toNat))] ++
  (match m.time with
    | some time => [(.ok "messageTime", .text (.ok time))]
    | none => []) ++
  [(.ok "messageType", .text (.ok m.type))]

theorem document?_toJson (m : Metadata) :
    m.toJson.document? = some (.object m.written .closed) := by
  rcases m with ⟨channel, number, time, type⟩
  cases time <;> rfl

theorem read_written (m : Metadata) : read (.object m.written .closed) = .ok m := by
  have drafted : Json.addMembers fields m.written {} = .ok
      { channel := some m.channel, number := some m.number
        time := m.time.map some, type := some m.type } := by
    rcases m with ⟨channel, number, time, type⟩
    cases time with
    | none =>
        show Json.addMembers fields [_, _, _] {} = _
        rw [Json.addMembers_of_read rfl rfl rfl,
          Json.addMembers_of_read rfl rfl (readNumber_ofInt number)]
        rfl
    | some time =>
        show Json.addMembers fields [_, _, _, _] {} = _
        rw [Json.addMembers_of_read rfl rfl rfl,
          Json.addMembers_of_read rfl rfl (readNumber_ofInt number)]
        rfl
  show Json.addMembers fields m.written {} >>= _ = _
  rw [drafted]
  rcases m with ⟨channel, number, time, type⟩
  cases time <;> rfl

end Metadata

/-! ## Messages -/

namespace EventKind

def written : EventKind → List Json.Member
  | launched rocketType launchSpeed mission =>
      [(.ok "launchSpeed", .number (.ofInt launchSpeed.toInt)),
        (.ok "mission", .text (.ok mission)), (.ok "type", .text (.ok rocketType))]
  | exploded reason => [(.ok "reason", .text (.ok reason))]
  | missionChanged newMission => [(.ok "newMission", .text (.ok newMission))]
  | speedIncreased amount => [(.ok "by", .number (.ofInt amount.toInt))]
  | speedDecreased amount => [(.ok "by", .number (.ofInt amount.toInt))]

theorem document?_toJson (kind : EventKind) :
    kind.toJson.document? = some (.object kind.written .closed) := by
  cases kind <;> rfl

theorem readMessage_written (kind : EventKind) (bound : Nat) :
    Envelope.readMessage bound (.object kind.written .closed) = .ok kind.toJson := by
  have object {members : List Json.Member} {values : List (String × Json)}
      (bare : Document.enclosed? members = none)
      (told : Document.readMembers (Json.parseEnclosed bound) 125 members = .ok values) :
      Envelope.readMessage bound (.object members .closed) = .ok (Json.ofMembers values) := by
    show Document.readValue _ (125 + 1) _ = _
    rw [Document.readValue, bare]
    dsimp only
    rw [told]
    rfl
  have amount (n : Int64) :
      Document.readMembers (Json.parseEnclosed bound) 125 [(.ok "by", .number (.ofInt n.toInt))] =
        .ok [("by", .integer n.toInt)] := by
    rw [Document.readMembers, readValue_ofInt]
    rfl
  cases kind with
  | launched rocketType launchSpeed mission =>
      have told : Document.readMembers (Json.parseEnclosed bound) 125
          (launched rocketType launchSpeed mission).written =
            .ok [("launchSpeed", .integer launchSpeed.toInt), ("mission", .text mission),
              ("type", .text rocketType)] := by
        rw [written, Document.readMembers, readValue_ofInt]
        rfl
      have ordered : ¬"mission" < "launchSpeed" ∧ ¬"type" < "launchSpeed" ∧
          ¬"type" < "mission" := by
        decide +kernel
      have apart : "mission" ≠ "launchSpeed" ∧ "type" ≠ "launchSpeed" ∧ "type" ≠ "mission" := by
        decide
      rw [object rfl told]
      simp only [Json.ofMembers, List.foldl_cons, List.foldl_nil, Json.put, ordered, apart,
        if_false, toJson]
  | exploded reason =>
      have told : Document.readMembers (Json.parseEnclosed bound) 125 (exploded reason).written =
          .ok [("reason", .text reason)] := rfl
      exact object rfl told
  | missionChanged newMission =>
      have told : Document.readMembers (Json.parseEnclosed bound) 125
          (missionChanged newMission).written = .ok [("newMission", .text newMission)] := rfl
      exact object rfl told
  | speedIncreased n =>
      exact object rfl (amount n)
  | speedDecreased n =>
      exact object rfl (amount n)

theorem readAmount_toInt (n : Int64) : Payload.readAmount (.integer n.toInt) = .ok n := by
  show (Json.Number.toInt .signed (.integer n.toInt)).map Int64.ofInt = _
  rw [Json.Number.toInt_of_holds (holds_toInt n)]
  show Except.ok (Int64.ofInt n.toInt) = _
  rw [Int64.ofInt_toInt]

theorem read_toJson (kind : EventKind) : Payload.read kind.type kind.toJson = .ok kind := by
  cases kind with
  | exploded reason =>
      rfl
  | missionChanged newMission =>
      rfl
  | _ =>
      simp [Payload.read, type, toJson, Payload.source, Payload.checkMembers, Payload.fields,
        Payload.Wanted.check, Payload.Source.field, Payload.Source.finish, List.lookup_cons,
        Payload.readText, readAmount_toInt, bind, Except.bind, pure, Except.pure, Except.map]

end EventKind

/-! ## Envelopes -/

namespace Envelope

def written (event : RocketEvent) : List Json.Member :=
  [(.ok "metadata", .object (ofEvent event).metadata.written .closed),
    (.ok "message", .object event.kind.written .closed)]

theorem document?_ofEvent (event : RocketEvent) :
    (ofEvent event).toJson.document? = some (.object (written event) .closed) := by
  show (Json.memberDocuments? [("metadata", (ofEvent event).metadata.toJson),
    ("message", event.kind.toJson)]).map _ = _
  simp only [Json.memberDocuments?, Metadata.document?_toJson, EventKind.document?_toJson]
  rfl

/-- The envelope of an event is read back as it was written. -/
theorem parse_ofEvent (event : RocketEvent) :
    parse (Text.bytes (ofEvent event).render) = .ok (ofEvent event) := by
  have drafted (bound : Nat) : Json.addMembers (fields bound) (written event) {} =
      .ok { metadata := some (ofEvent event).metadata, message := some event.kind.toJson } := by
    unfold written
    rw [Json.addMembers_of_read rfl rfl (Metadata.read_written _),
      Json.addMembers_of_read rfl rfl (EventKind.readMessage_written _ bound)]
    rfl
  unfold parse render
  rw [Json.parse_render _ (document?_ofEvent event)]
  show Json.addMembers (fields _) (written event) {} >>= _ = _
  rw [drafted]
  rfl

theorem isEmpty_text (t : Instant) : t.text.isEmpty = false := by
  have marked : t.text ≠ "" := by
    intro none
    have chars := String.ofList_eq_empty_iff.mp none
    exact absurd chars (List.append_ne_nil_of_right_ne_nil _ (List.cons_ne_nil 'Z' []))
  simpa using marked

theorem time_ofEvent (event : RocketEvent) :
    (ofEvent event).time = match event.time with
      | none => .ok none
      | some t => (Time.Rfc3339.parse t.text).map some := by
  rcases event with ⟨kind, eventId, channel, number, time⟩
  cases time with
  | none =>
      rfl
  | some t =>
      have filled := isEmpty_text t
      unfold time ofEvent
      simp only [Option.map_some, filled]
      rfl

end Envelope

namespace RocketEvent

/-- The body in which an event is sent. -/
def wire (event : RocketEvent) : Bytes := Text.bytes (Envelope.ofEvent event).render

theorem ofBody_wire (event : RocketEvent) :
    ofBody event.wire =
      match (Envelope.ofEvent event).time with
      | .error cause => .error (.badPayload event.kind.type.name (.time cause))
      | .ok time => .ok (.ofFields event.kind event.rocketId event.number time) := by
  unfold ofBody wire
  rw [Envelope.parse_ofEvent]
  exact Envelope.resolve_of_read rfl (EventKind.read_toJson event.kind)

end RocketEvent

end MissionControl
