import MissionControl.Proofs.Event.Reading

/-!
# The format of messages

A body is accepted just where it is written in one of a few forms.  The documented form has three
objects, metadata and message inside the envelope.  The others have an array in the place of one of
them, or a message that is enclosed as a text.
-/

namespace MissionControl

open Json (Document Layout ReadFault Reads Record)

/-! ## Times -/

/-- What is told of the time of an event: nothing, or a text in the right form. -/
inductive Timed : Option Instant → Option Document → Prop where
  | absent : Timed none none
  | null : Timed none (some .null)
  | blank : Timed none (some (.text (.ok "")))
  | told {text : String} {t : Instant} : Time.Rfc3339.parse text = .ok t →
      Timed (some t) (some (.text (.ok text)))

theorem timed_of_time {e : Envelope} {given : Option Document} {time : Option Instant}
    (reads : Reads Document.readOptionalText none given e.metadata.time)
    (told : e.time = .ok time) : Timed time given := by
  unfold Envelope.time at told
  cases given with
  | none =>
      rw [show e.metadata.time = none from reads] at told
      cases told
      exact .absent
  | some document =>
      rcases Document.readOptionalText_eq_ok_iff.mp reads with ⟨rfl, same⟩ | ⟨text, rfl, same⟩
      · rw [same] at told
        cases told
        exact .null
      · rw [same] at told
        dsimp only at told
        split at told
        · rename_i blank
          cases told
          rw [String.isEmpty_iff.mp blank]
          exact .blank
        · rcases exists_of_map_eq_ok told with ⟨t, parsed, rfl⟩
          exact .told parsed

theorem Timed.exists_text {given : Option Document} {time : Option Instant}
    (timed : Timed time given) : ∃ text, Reads Document.readOptionalText none given text ∧
      ∀ e : Envelope, e.metadata.time = text → e.time = .ok time := by
  cases timed with
  | absent =>
      refine ⟨none, rfl, fun e same => ?_⟩
      unfold Envelope.time
      rw [same]
  | null =>
      refine ⟨none, rfl, fun e same => ?_⟩
      unfold Envelope.time
      rw [same]
  | blank =>
      refine ⟨some "", rfl, fun e same => ?_⟩
      unfold Envelope.time
      rw [same]
      rfl
  | @told text t parsed =>
      refine ⟨some text, rfl, fun e same => ?_⟩
      have filled : text.isEmpty = false := by
        apply eq_false_of_ne_true
        intro blank
        rw [String.isEmpty_iff.mp blank] at parsed
        cases parsed
      unfold Envelope.time
      rw [same]
      simp [filled, parsed, Except.map]

/-! ## Forms -/

/-- How the records of a message are written, and whether its own is enclosed as a text. -/
structure Form where
  envelope : Layout
  metadata : Layout
  message : Layout
  enclosed : Bool
  deriving DecidableEq

def Form.documented : Form :=
  { envelope := .named, metadata := .named, message := .named, enclosed := false }

/-- A document stands for a value whose text it encloses. -/
def Json.Document.encloses : Document → Bool
  | object members _ => (enclosed? members).isSome
  | _ => false

/-- Metadata gives the fields of an event. -/
structure RocketEvent.Described (event : RocketEvent) (given : String → Option Document) :
    Prop where
  channel : given "channel" = some (.text (.ok event.rocketId)) ∨
    given "channel" = none ∧ event.rocketId = ""
  number : (∃ numeral, given "messageNumber" = some (.number numeral) ∧
      numeral.value = .ok (.integer event.number.toNat)) ∨
    given "messageNumber" = none ∧ event.number = 0
  time : Timed event.time (given "messageTime")
  type : given "messageType" = some (.text (.ok event.kind.type.name))

/-- A body tells of an event, in a form. -/
inductive Written (form : Form) (body : Bytes) (event : RocketEvent) : Prop where
  | intro {document about told : Document} {value : Json}
      {parts given : String → Option Document}
      (whole : Document.ofTokens (Json.tokens body) = (document, []))
      (envelope : Record ["metadata", "message"] form.envelope document parts)
      (hasMetadata : parts "metadata" = some about)
      (metadata : Record Metadata.fieldNames form.metadata about given)
      (described : event.Described given)
      (hasMessage : parts "message" = some told)
      (enclosed : told.encloses = form.enclosed)
      (read : Envelope.readMessage body.length told = .ok value)
      (shown : event.kind.Shown form.message value)
      (own : event = .ofFields event.kind event.rocketId event.number event.time) :
      Written form body event

theorem name_ne (type : EventType) : type.name ≠ "" := by
  cases type <;> decide

theorem keyed_readMessage {bound : Nat} {document : Document} {value : Json}
    (told : Envelope.readMessage bound document = .ok value) : value.Keyed :=
  Json.keyed_readValue Json.keyed_parseEnclosed told

theorem described_of_shows {e : Envelope} {event : RocketEvent} {given : String → Option Document}
    (shows : e.metadata.Shows given) (tells : e.Tells event) : event.Described given := by
  have channel : event.rocketId = e.metadata.channel := congrArg RocketEvent.rocketId tells.own
  have number : event.number = e.metadata.number := congrArg RocketEvent.number tells.own
  constructor
  · have reads := shows.channel
    cases there : given "channel" with
    | none =>
        rw [there] at reads
        exact .inr ⟨rfl, channel.trans reads⟩
    | some document =>
        rw [there] at reads
        rw [channel, Document.readText_eq_ok_iff.mp reads]
        exact .inl rfl
  · have reads := shows.number
    cases there : given "messageNumber" with
    | none =>
        rw [there] at reads
        exact .inr ⟨rfl, number.trans reads⟩
    | some document =>
        rw [there] at reads
        rcases Metadata.readNumber_eq_ok_iff.mp reads with ⟨numeral, rfl, value⟩
        rw [number]
        exact .inl ⟨numeral, rfl, value⟩
  · exact timed_of_time shows.time tells.time
  · have reads := shows.type
    cases there : given "messageType" with
    | none =>
        rw [there] at reads
        exact absurd (tells.type.symm.trans reads) (name_ne _)
    | some document =>
        rw [there] at reads
        rw [← tells.type, Document.readText_eq_ok_iff.mp reads]

theorem exists_metadata_of_described {event : RocketEvent} {given : String → Option Document}
    (described : event.Described given) : ∃ m : Metadata, m.Shows given ∧
      m.channel = event.rocketId ∧ m.number = event.number ∧ m.type = event.kind.type.name ∧
        ∀ message, Envelope.time { metadata := m, message := message } = .ok event.time := by
  rcases described.time.exists_text with ⟨text, reads, time⟩
  refine ⟨⟨event.rocketId, event.number, text, event.kind.type.name⟩, ⟨?_, ?_, reads, ?_⟩, rfl, rfl,
    rfl, fun message => time _ rfl⟩
  · rcases described.channel with there | ⟨there, blank⟩
    · rw [there]
      rfl
    · rw [there]
      exact blank
  · rcases described.number with ⟨numeral, there, value⟩ | ⟨there, zero⟩
    · rw [there]
      exact Metadata.readNumber_eq_ok_iff.mpr ⟨numeral, rfl, value⟩
    · rw [there]
      exact zero
  · rw [described.type]
    rfl

theorem exists_given_of_reads {about? : Option Document} {m : Metadata}
    (reads : Reads Metadata.read {} about? m) (named : m.type ≠ "") :
    ∃ about layout given, about? = some about ∧ Record Metadata.fieldNames layout about given ∧
      m.Shows given := by
  cases about? with
  | none =>
      rw [show m = {} from reads] at named
      exact absurd rfl named
  | some about =>
      rcases Metadata.read_eq_ok_iff.mp reads with ⟨_, rfl⟩ | ⟨layout, given, record, shows⟩
      · exact absurd rfl named
      · exact ⟨about, layout, given, rfl, record, shows⟩

theorem exists_shown_of_reads {bound : Nat} {told? : Option Document} {value : Json}
    {kind : EventKind} (reads : Reads (Envelope.readMessage bound) .null told? value)
    (payload : Payload.read kind.type value = .ok kind) :
    ∃ told layout, told? = some told ∧ Envelope.readMessage bound told = .ok value ∧
      kind.Shown layout value := by
  cases told? with
  | none =>
      rw [show value = .null from reads] at payload
      cases payload
  | some told =>
      rcases (Payload.read_eq_ok_iff (keyed_readMessage reads)).mp payload with ⟨layout, shown⟩
      exact ⟨told, layout, rfl, reads, shown⟩

namespace RocketEvent

variable {body : Bytes} {event : RocketEvent}

theorem exists_form_of_ofBody (accepted : ofBody body = .ok event) :
    ∃ form, Written form body event := by
  rcases exists_envelope_of_ofBody accepted with ⟨e, parsed, tells⟩
  rcases Envelope.parse_eq_ok_iff.mp parsed with ⟨document, shape, envelope, parts, record, shows⟩
  have named : e.metadata.type ≠ "" := by
    rw [tells.type]
    exact name_ne _
  rcases exists_given_of_reads shows.metadata named with
    ⟨about, metadata, given, there, recorded, shown⟩
  rcases exists_shown_of_reads shows.message tells.payload with
    ⟨told, message, given', read, shownAs⟩
  exact ⟨⟨envelope, metadata, message, told.encloses⟩, .intro shape record there recorded
    (described_of_shows shown tells) given' rfl read shownAs (eq_ofFields_of_ofBody accepted)⟩

/-- A body that is written in a form holds an envelope that tells of the event. -/
theorem exists_envelope_of_written {form : Form} (written : Written form body event) :
    ∃ e, Envelope.parse body = .ok e ∧ event.kind.Shown form.message e.message ∧
      e.resolve = .ok event := by
  cases written with
  | @intro document about told value parts given shape record there recorded described message
      _ read shown own =>
      rcases exists_metadata_of_described described with ⟨m, shows, channel, number, type, time⟩
      have parsed : Envelope.parse body = .ok { metadata := m, message := value } := by
        refine Envelope.parse_eq_ok_iff.mpr ⟨document, shape, _, parts, record, ?_, ?_⟩
        · rw [there]
          exact Metadata.read_eq_ok_iff.mpr (.inr ⟨_, given, recorded, shows⟩)
        · rw [message]
          exact read
      have payload : Payload.read event.kind.type value = .ok event.kind :=
        (Payload.read_eq_ok_iff (keyed_readMessage read)).mpr ⟨_, shown⟩
      refine ⟨_, parsed, shown, ?_⟩
      rw [Envelope.resolve_of_read type payload, time]
      dsimp only
      rw [channel, number, ← own]

theorem ofBody_of_written {form : Form} (written : Written form body event) :
    ofBody body = .ok event := by
  rcases exists_envelope_of_written written with ⟨e, parsed, _, resolved⟩
  unfold ofBody
  rw [parsed]
  exact resolved

/--
A body is accepted as telling of an event just where it is written in one of the forms, and any
other body is refused in one of three ways.
-/
theorem ofBody_eq_ok_iff_written (body : Bytes) :
    (∀ event, ofBody body = .ok event ↔ ∃ form, Written form body event) ∧
      ((∀ event form, ¬Written form body event) →
        (∃ cause, ofBody body = .error (.badEnvelope cause)) ∨
          (∃ name, ofBody body = .error (.unknownType name)) ∨
            ∃ name fault, ofBody body = .error (.badPayload name fault)) := by
  constructor
  · intro event
    constructor
    · exact exists_form_of_ofBody
    · rintro ⟨form, written⟩
      exact ofBody_of_written written
  · intro unwritten
    cases answer : ofBody body with
    | ok event =>
        rcases exists_form_of_ofBody answer with ⟨form, written⟩
        exact absurd written (unwritten event form)
    | error fault =>
        cases fault with
        | badEnvelope cause =>
            exact .inl ⟨cause, rfl⟩
        | unknownType name =>
            exact .inr (.inl ⟨name, rfl⟩)
        | badPayload name fault =>
            exact .inr (.inr ⟨name, fault, rfl⟩)

def listedMessage : Bytes :=
  ("\x7b\"metadata\":\x7b\"channel\":\"193270a9-c9cf-404a-8f83-838e71d9ae67\"," ++
    "\"messageNumber\":1,\"messageType\":\"RocketExploded\"\x7d," ++
    "\"message\":[\"X\"]\x7d").toUTF8.toList

/-- It is accepted, although no event is written in it in the documented form. -/
theorem listed_message_accepted :
    ofBody listedMessage =
        .ok (.ofFields (.exploded "X") "193270a9-c9cf-404a-8f83-838e71d9ae67" 1 none) ∧
      ∀ event, ¬Written .documented listedMessage event := by
  constructor
  · apply eq_ok_of_toOption_eq_some
    decide +kernel
  · intro event written
    rcases exists_envelope_of_written written with ⟨⟨metadata, message⟩, parsed, shown, _⟩
    have listed : ((Envelope.parse listedMessage).toOption.map fun e =>
        match e.message with
        | .array _ => true
        | _ => false) = some true := by
      decide +kernel
    rw [parsed] at listed
    change event.kind.Shown .named message at shown
    cases shown with
    | named held =>
        cases listed

/-! ## What is sent -/

theorem gives_written (event : RocketEvent) :
    Json.Gives ["metadata", "message"] (Envelope.written event) fun name =>
      (Json.valuesUnder name (Envelope.written event)).head? := by
  constructor
  · intro member mem
    rcases List.mem_cons.mp mem with rfl | mem
    · exact ⟨"metadata", rfl, .inl (by decide)⟩
    · cases List.mem_singleton.mp mem
      exact ⟨"message", rfl, .inl (by decide)⟩
  · intro name field
    simp only [List.mem_cons, List.not_mem_nil, or_false] at field
    rcases field with rfl | rfl <;> rfl

theorem gives_metadata_written (m : Metadata) :
    Json.Gives Metadata.fieldNames m.written fun name =>
      (Json.valuesUnder name m.written).head? := by
  rcases m with ⟨channel, number, time, type⟩
  constructor
  · intro member mem
    cases time with
    | none =>
        simp only [Metadata.written, List.cons_append, List.nil_append, List.mem_cons,
          List.not_mem_nil, or_false] at mem
        rcases mem with rfl | rfl | rfl <;> exact ⟨_, rfl, .inl (by decide)⟩
    | some time =>
        simp only [Metadata.written, List.cons_append, List.nil_append, List.mem_cons,
          List.not_mem_nil, or_false] at mem
        rcases mem with rfl | rfl | rfl | rfl <;> exact ⟨_, rfl, .inl (by decide)⟩
  · intro name field
    simp only [Metadata.fieldNames, List.mem_cons, List.not_mem_nil, or_false] at field
    cases time with
    | none =>
        rcases field with rfl | rfl | rfl | rfl <;> rfl
    | some time =>
        rcases field with rfl | rfl | rfl | rfl <;> rfl

theorem described_written (read : ∀ t, event.time = some t →
      Time.Rfc3339.parse t.text = .ok t) :
    event.Described fun name =>
      (Json.valuesUnder name (Envelope.ofEvent event).metadata.written).head? := by
  rcases event with ⟨kind, eventId, channel, number, time⟩
  have value : (Json.Numeral.ofInt number.toNat).value = .ok (.integer number.toNat) := by
    have bound := number.toNat_lt
    exact Json.Numeral.value_ofInt (by omega) (by omega)
  cases time with
  | none =>
      exact ⟨.inl rfl, .inl ⟨_, rfl, value⟩, .absent, rfl⟩
  | some t =>
      exact ⟨.inl rfl, .inl ⟨_, rfl, value⟩, .told (read t rfl), rfl⟩

theorem shown_toJson (kind : EventKind) : kind.Shown .named kind.toJson := by
  cases kind with
  | launched rocketType launchSpeed mission =>
      refine .named fun field mem => ?_
      simp only [EventKind.fields, List.mem_cons, List.not_mem_nil, or_false] at mem
      rcases mem with rfl | rfl | rfl <;> rfl
  | _ =>
      refine .named fun field mem => ?_
      cases List.mem_singleton.mp mem
      rfl

/-- What is sent of an event whose time reads back is written in the documented form. -/
theorem written_wire (own : event = .ofFields event.kind event.rocketId event.number event.time)
    (read : ∀ t, event.time = some t → Time.Rfc3339.parse t.text = .ok t) :
    Written .documented event.wire event := by
  have shape : Document.ofTokens (Json.tokens event.wire) =
      (.object (Envelope.written event) .closed, []) := by
    rcases Json.parse_eq_ok_iff.mp (Json.parse_render (fun document => .ok document)
      (Envelope.document?_ofEvent event)) with ⟨document, shape, same⟩
    cases same
    exact shape
  refine .intro shape (.named (gives_written event)) rfl
    (.named (gives_metadata_written (Envelope.ofEvent event).metadata)) ?_ rfl ?_
    (EventKind.readMessage_written event.kind _) (shown_toJson event.kind) own
  · exact described_written read
  · cases event.kind <;> rfl

end RocketEvent

end MissionControl
