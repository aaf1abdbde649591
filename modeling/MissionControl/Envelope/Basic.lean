import MissionControl.Event.Payload
import MissionControl.Json.Printer
import MissionControl.Json.Record
import MissionControl.Time.Rfc3339

/-!
# Envelopes

The JSON form in which messages arrive: a `message` of any shape with `metadata` about it.  Every
part may be missing.
-/

namespace MissionControl

structure Metadata where
  channel : String := ""
  number : UInt64 := 0
  time : Option String := none
  type : String := ""
  deriving Repr, DecidableEq

structure Envelope where
  metadata : Metadata := {}
  message : Json := .null

namespace Metadata

instance : Inhabited Metadata :=
  ⟨{}⟩

open Json (Document ReadFault)

/-! ## Reading -/

structure Draft where
  channel : Option String := none
  number : Option UInt64 := none
  time : Option (Option String) := none
  type : Option String := none

def Draft.finish (draft : Draft) : Metadata :=
  { channel := draft.channel.getD "", number := draft.number.getD 0
    time := draft.time.getD none, type := draft.type.getD "" }

def readNumber (document : Document) : Except ReadFault UInt64 :=
  (document.readInt .unsigned).map fun n => UInt64.ofNat n.toNat

def fields : List (Json.Field Draft) :=
  [{ name := "channel", read := Document.readText, given := Draft.channel
     put := fun text draft => { draft with channel := some text } },
   { name := "messageNumber", read := readNumber, given := Draft.number
     put := fun number draft => { draft with number := some number } },
   { name := "messageTime", read := Document.readOptionalText, given := Draft.time
     put := fun text? draft => { draft with time := some text? } },
   { name := "messageType", read := Document.readText, given := Draft.type
     put := fun text draft => { draft with type := some text } }]

/-- Metadata, from an object or an array; null stands for no metadata. -/
def read : Document → Except ReadFault Metadata
  | .null => .ok {}
  | document => Json.readRecord fields {} Draft.finish "struct EnvelopeMetadata" document

/-! ## Writing -/

def toJson (m : Metadata) : Json :=
  .object <|
    [("channel", .text m.channel), ("messageNumber", .integer m.number.toNat)] ++
    (match m.time with
      | some time => [("messageTime", .text time)]
      | none => []) ++
    [("messageType", .text m.type)]

end Metadata

namespace Envelope

open Json (Document ReadFault)

/-! ## Reading -/

structure Draft where
  metadata : Option Metadata := none
  message : Option Json := none

def Draft.finish (draft : Draft) : Envelope :=
  { metadata := draft.metadata.getD {}, message := draft.message.getD .null }

/-- The message, which stands inside the envelope; `bound` is the length of the whole text. -/
def readMessage (bound : Nat) : Document → Except ReadFault Json :=
  Document.readValue (Json.parseEnclosed bound) (Json.depthLimit - 1)

def fields (bound : Nat) : List (Json.Field Draft) :=
  [{ name := "metadata", read := Metadata.read, given := Draft.metadata
     put := fun metadata draft => { draft with metadata := some metadata } },
   { name := "message", read := readMessage bound, given := Draft.message
     put := fun message draft => { draft with message := some message } }]

def read (bound : Nat) : Document → Except ReadFault Envelope :=
  Json.readRecord (fields bound) {} Draft.finish "struct RocketEnvelope"

def parse (body : Bytes) : Except ReadFault Envelope :=
  Json.parse (read body.length) body

/-! ## Writing -/

def toJson (e : Envelope) : Json :=
  .object [("metadata", e.metadata.toJson), ("message", e.message)]

def render (e : Envelope) : String :=
  e.toJson.render

def ofEvent (event : RocketEvent) : Envelope :=
  { metadata :=
      { channel := event.rocketId, number := event.number
        time := event.time.map Instant.text, type := event.kind.type.name }
    message := event.kind.toJson }

/-! ## Time and identity -/

/-- The time of the message; an empty text stands for none. -/
def time (e : Envelope) : Except Time.Rfc3339.Fault (Option Instant) :=
  match e.metadata.time with
  | none => .ok none
  | some text => if text.isEmpty then .ok none else (Time.Rfc3339.parse text).map some

def identity (e : Envelope) : Except Time.Rfc3339.Fault String :=
  e.time.map (MissionControl.identity e.metadata.channel e.metadata.type e.metadata.number)

def legacyIdentity (e : Envelope) : String :=
  MissionControl.legacyIdentity e.metadata.channel e.metadata.type e.metadata.number

end Envelope

end MissionControl
