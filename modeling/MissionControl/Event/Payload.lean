import MissionControl.Event.Basic
import MissionControl.Json.Decode

/-!
# Payloads

The `message` part of a message for each type of event, as an object with named fields or as an
array of the same values in order.
-/

namespace MissionControl

/-! ## Writing -/

def EventKind.toJson : EventKind → Json
  | launched rocketType launchSpeed mission =>
      .object [("launchSpeed", .integer launchSpeed.toInt), ("mission", .text mission),
        ("type", .text rocketType)]
  | exploded reason => .object [("reason", .text reason)]
  | missionChanged newMission => .object [("newMission", .text newMission)]
  | speedIncreased amount => .object [("by", .integer amount.toInt)]
  | speedDecreased amount => .object [("by", .integer amount.toInt)]

namespace Payload

open Json (ReadFault)

/-! ## Fields -/

def readText : Json → Except ReadFault String
  | .text value => .ok value
  | value => .error (.wrongType value.described "a string")

def readAmount : Json → Except ReadFault Int64
  | .integer value => (Json.Number.toInt .signed (.integer value)).map Int64.ofInt
  | value => .error (.wrongType value.described "i64")

inductive Wanted where
  | text
  | amount
  deriving Repr, DecidableEq

def Wanted.check (wanted : Wanted) (value : Json) : Except ReadFault Unit :=
  match wanted with
  | text => (readText value).map fun _ => ()
  | amount => (readAmount value).map fun _ => ()

def fields : EventType → List (String × Wanted)
  | .launched => [("type", .text), ("launchSpeed", .amount), ("mission", .text)]
  | .exploded => [("reason", .text)]
  | .missionChanged => [("newMission", .text)]
  | .speedIncreased => [("by", .amount)]
  | .speedDecreased => [("by", .amount)]

def wantedRecord (type : EventType) : String :=
  s!"struct {type.name}"

def wantedFields (type : EventType) : String :=
  let count := (fields type).length
  s!"{wantedRecord type} with {count} " ++ (if count = 1 then "element" else "elements")

/-! ## Sources -/

/-- Where the fields are taken from. -/
inductive Source where
  | named (members : List (String × Json))
  | listed (items : List Json)

namespace Source

def field {α : Type} (type : EventType) (place : Nat) (name : String)
    (read : Json → Except ReadFault α) : Source → Except ReadFault α
  | named members =>
      match members.lookup name with
      | some value => read value
      | none => .error (.missingField name)
  | listed items =>
      match items[place]? with
      | some value => read value
      | none => .error (.wrongLength place (wantedFields type))

def finish (type : EventType) : Source → Except ReadFault Unit
  | named _ => .ok ()
  | listed items =>
      if (fields type).length < items.length then
        .error (.wrongLength items.length "fewer elements in array")
      else
        .ok ()

end Source

def checkMembers (type : EventType) : List (String × Json) → Except ReadFault Unit
  | [] => .ok ()
  | (name, value) :: rest => do
      match (fields type).lookup name with
      | some wanted => wanted.check value
      | none => pure ()
      checkMembers type rest

def source (type : EventType) : Json → Except ReadFault Source
  | .object members => do
      checkMembers type members
      return .named members
  | .array items => .ok (.listed items)
  | value => .error (.wrongType value.described (wantedRecord type))

/-! ## Reading -/

def read (type : EventType) (message : Json) : Except ReadFault EventKind := do
  let source ← source type message
  let kind ←
    match type with
    | .launched => do
        let rocketType ← source.field type 0 "type" readText
        let launchSpeed ← source.field type 1 "launchSpeed" readAmount
        let mission ← source.field type 2 "mission" readText
        pure (EventKind.launched rocketType launchSpeed mission)
    | .exploded => do
        let reason ← source.field type 0 "reason" readText
        pure (EventKind.exploded reason)
    | .missionChanged => do
        let newMission ← source.field type 0 "newMission" readText
        pure (EventKind.missionChanged newMission)
    | .speedIncreased => do
        let amount ← source.field type 0 "by" readAmount
        pure (EventKind.speedIncreased amount)
    | .speedDecreased => do
        let amount ← source.field type 0 "by" readAmount
        pure (EventKind.speedDecreased amount)
  source.finish type
  return kind

end Payload

end MissionControl
