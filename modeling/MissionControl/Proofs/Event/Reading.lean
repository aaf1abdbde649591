import MissionControl.Proofs.Event.Wire
import MissionControl.Proofs.Json.Records

/-!
# Reading the parts of a message

Envelope and metadata are read as records, and so is the payload, once its values are there.  What
each of them reads as is told by the values that its members give.
-/

namespace MissionControl

open Json (Document Layout ReadFault Reads Record Takes)

/-! ## Metadata -/

namespace Metadata

def fieldNames : List String :=
  ["channel", "messageNumber", "messageTime", "messageType"]

theorem separate_fields : Json.Separate fields where
  named := by simp [fields]
  given_put := by simp [fields]
  given_put_of_ne := by simp [fields]
  ext := by
    rintro ⟨channel, number, time, type⟩ ⟨channel', number', time', type'⟩ same
    simpa [fields] using same

/-- What metadata is, by what was given for its fields. -/
structure Shows (m : Metadata) (given : String → Option Document) : Prop where
  channel : Reads Document.readText "" (given "channel") m.channel
  number : Reads readNumber 0 (given "messageNumber") m.number
  time : Reads Document.readOptionalText none (given "messageTime") m.time
  type : Reads Document.readText "" (given "messageType") m.type

theorem finishes : Json.Finishes fields {} Draft.finish Shows := by
  intro values m
  constructor
  · rintro ⟨after, took, rfl⟩
    simp only [Json.Took, fields, List.forall_mem_cons, List.not_mem_nil, false_imp_iff,
      implies_true, and_true] at took
    rcases took with ⟨channel, number, time, type⟩
    rcases Json.reads_of_takes "" channel with ⟨oneChannel, channel⟩
    rcases Json.reads_of_takes 0 number with ⟨oneNumber, number⟩
    rcases Json.reads_of_takes none time with ⟨oneTime, time⟩
    rcases Json.reads_of_takes "" type with ⟨oneType, type⟩
    refine ⟨fun name => (values name).head?, ?_, channel, number, time, type⟩
    intro name (field : name ∈ fieldNames)
    simp only [fieldNames, List.mem_cons, List.not_mem_nil, or_false] at field
    rcases field with rfl | rfl | rfl | rfl
    · exact oneChannel
    · exact oneNumber
    · exact oneTime
    · exact oneType
  · rintro ⟨given, single, shows⟩
    rcases Json.takes_of_reads shows.channel with ⟨tookChannel, channel⟩
    rcases Json.takes_of_reads shows.number with ⟨tookNumber, number⟩
    rcases Json.takes_of_reads shows.time with ⟨tookTime, time⟩
    rcases Json.takes_of_reads shows.type with ⟨tookType, type⟩
    refine ⟨{ channel := (given "channel").map fun _ => m.channel
              number := (given "messageNumber").map fun _ => m.number
              time := (given "messageTime").map fun _ => m.time
              type := (given "messageType").map fun _ => m.type }, ?_, ?_⟩
    · have field (name : String) (known : name ∈ fieldNames) : values name = (given name).toList :=
        single name known
      simp only [Json.Took, fields, List.forall_mem_cons, List.not_mem_nil, false_imp_iff,
        implies_true, and_true]
      rw [field "channel" (by decide), field "messageNumber" (by decide),
        field "messageTime" (by decide), field "messageType" (by decide)]
      exact ⟨tookChannel, tookNumber, tookTime, tookType⟩
    · simp only [Draft.finish, channel, number, time, type]

theorem read_eq {document : Document} (there : document ≠ .null) :
    read document = Json.readRecord fields {} Draft.finish "struct EnvelopeMetadata" document := by
  cases document with
  | null =>
      exact absurd rfl there
  | _ =>
      rfl

theorem read_eq_ok_iff {document : Document} {m : Metadata} :
    read document = .ok m ↔ document = .null ∧ m = {} ∨
      ∃ layout given, Record fieldNames layout document given ∧ m.Shows given := by
  by_cases there : document = .null
  · subst there
    constructor
    · intro told
      cases told
      exact .inl ⟨rfl, rfl⟩
    · rintro (⟨_, rfl⟩ | ⟨_, _, record, _⟩)
      · rfl
      · cases record
  · have names : Json.Field.names fields = fieldNames := rfl
    rw [read_eq there, Json.readRecord_eq_ok_iff separate_fields finishes, names]
    simp [there]

end Metadata

/-! ## Envelopes -/

namespace Envelope

variable {bound : Nat}

theorem separate_fields : Json.Separate (fields bound) where
  named := by simp [fields]
  given_put := by simp [fields]
  given_put_of_ne := by simp [fields]
  ext := by
    rintro ⟨metadata, message⟩ ⟨metadata', message'⟩ same
    simpa [fields] using same

/-- What an envelope is, by what was given for its fields. -/
structure Shows (bound : Nat) (e : Envelope) (given : String → Option Document) : Prop where
  metadata : Reads Metadata.read {} (given "metadata") e.metadata
  message : Reads (readMessage bound) .null (given "message") e.message

theorem finishes :
    Json.Finishes (fields bound) {} Draft.finish (Shows bound) := by
  intro values e
  constructor
  · rintro ⟨after, took, rfl⟩
    simp only [Json.Took, fields, List.forall_mem_cons, List.not_mem_nil, false_imp_iff,
      implies_true, and_true] at took
    rcases took with ⟨metadata, message⟩
    rcases Json.reads_of_takes {} metadata with ⟨oneMetadata, metadata⟩
    rcases Json.reads_of_takes .null message with ⟨oneMessage, message⟩
    refine ⟨fun name => (values name).head?, ?_, metadata, message⟩
    intro name (field : name ∈ ["metadata", "message"])
    simp only [List.mem_cons, List.not_mem_nil, or_false] at field
    rcases field with rfl | rfl
    · exact oneMetadata
    · exact oneMessage
  · rintro ⟨given, single, shows⟩
    rcases Json.takes_of_reads shows.metadata with ⟨tookMetadata, metadata⟩
    rcases Json.takes_of_reads shows.message with ⟨tookMessage, message⟩
    refine ⟨{ metadata := (given "metadata").map fun _ => e.metadata
              message := (given "message").map fun _ => e.message }, ?_, ?_⟩
    · have field (name : String) (known : name ∈ ["metadata", "message"]) :
          values name = (given name).toList := single name known
      simp only [Json.Took, fields, List.forall_mem_cons, List.not_mem_nil, false_imp_iff,
        implies_true, and_true]
      rw [field "metadata" (by decide), field "message" (by decide)]
      exact ⟨tookMetadata, tookMessage⟩
    · simp only [Draft.finish, metadata, message]

theorem parse_eq_ok_iff {body : Bytes} {e : Envelope} :
    parse body = .ok e ↔ ∃ document, Document.ofTokens (Json.tokens body) = (document, []) ∧
      ∃ layout given, Record ["metadata", "message"] layout document given ∧
        e.Shows body.length given := by
  unfold parse read
  rw [Json.parse_eq_ok_iff]
  simp only [Json.readRecord_eq_ok_iff separate_fields finishes]
  rfl

end Envelope

/-! ## Payloads -/

def EventKind.fields : EventKind → List (String × Json)
  | launched rocketType launchSpeed mission =>
      [("type", .text rocketType), ("launchSpeed", .integer launchSpeed.toInt),
        ("mission", .text mission)]
  | exploded reason => [("reason", .text reason)]
  | missionChanged newMission => [("newMission", .text newMission)]
  | speedIncreased amount => [("by", .integer amount.toInt)]
  | speedDecreased amount => [("by", .integer amount.toInt)]

/-- A value shows the fields of an event in a layout. -/
inductive EventKind.Shown (kind : EventKind) : Layout → Json → Prop where
  | named {members : List (String × Json)} :
      (∀ field ∈ kind.fields, members.lookup field.1 = some field.2) →
      Shown kind .named (.object members)
  | listed : Shown kind .listed (.array (kind.fields.map (·.2)))

theorem Json.Number.toInt_eq_ok_iff {width : Json.Width} {number : Json.Number} {i : Int} :
    toInt width number = .ok i ↔ number = .integer i ∧ width.holds i = true := by
  constructor
  · intro told
    cases number with
    | integer n =>
        unfold toInt at told
        dsimp only at told
        split at told
        · rename_i holds
          cases told
          exact ⟨rfl, holds⟩
        · cases told
    | float x =>
        cases told
  · rintro ⟨rfl, holds⟩
    exact toInt_of_holds holds

namespace Payload

theorem readText_eq_ok_iff {value : Json} {text : String} :
    readText value = .ok text ↔ value = .text text := by
  cases value <;> simp [readText]

theorem readAmount_eq_ok_iff {value : Json} {amount : Int64} :
    readAmount value = .ok amount ↔ value = .integer amount.toInt := by
  constructor
  · intro told
    cases value with
    | integer n =>
        rcases exists_of_map_eq_ok told with ⟨i, read, rfl⟩
        rcases Json.Number.toInt_eq_ok_iff.mp read with ⟨same, holds⟩
        cases same
        have range := of_decide_eq_true holds
        rw [Int64.toInt_ofInt_of_le (by omega) (by omega)]
    | _ =>
        cases told
  · rintro rfl
    exact EventKind.readAmount_toInt amount

/-- What stands in the place of a field or under its name. -/
def Source.value? (place : Nat) (name : String) : Source → Option Json
  | named members => members.lookup name
  | listed items => items[place]?

theorem field_eq_ok_iff {α : Type} {type : EventType} {place : Nat} {name : String}
    {read : Json → Except ReadFault α} {source : Source} {x : α} :
    source.field type place name read = .ok x ↔
      ∃ value, source.value? place name = some value ∧ read value = .ok x := by
  unfold Source.field Source.value?
  cases source with
  | named members =>
      dsimp only
      cases members.lookup name <;> simp
  | listed items =>
      dsimp only
      cases items[place]? <;> simp

theorem check_of_lookup {kind : EventKind} {name : String} {wanted : Wanted}
    (known : (fields kind.type).lookup name = some wanted) :
    ∃ value, (name, value) ∈ kind.fields ∧ wanted.check value = .ok () := by
  have checks (amount : Int64) : Wanted.amount.check (.integer amount.toInt) = .ok () := by
    unfold Wanted.check
    dsimp only
    rw [EventKind.readAmount_toInt]
    rfl
  have mem : (name, wanted) ∈ fields kind.type := by
    rcases List.lookup_eq_some_iff.mp known with ⟨before, after, same, _⟩
    rw [same]
    exact List.mem_append_right _ List.mem_cons_self
  cases kind with
  | launched rocketType launchSpeed mission =>
      simp only [EventKind.type, fields, List.mem_cons, Prod.mk.injEq, List.not_mem_nil,
        or_false] at mem
      rcases mem with ⟨rfl, rfl⟩ | ⟨rfl, rfl⟩ | ⟨rfl, rfl⟩
      · exact ⟨.text rocketType, by simp [EventKind.fields], rfl⟩
      · exact ⟨.integer launchSpeed.toInt, by simp [EventKind.fields], checks launchSpeed⟩
      · exact ⟨.text mission, by simp [EventKind.fields], rfl⟩
  | exploded reason =>
      cases List.mem_singleton.mp mem
      exact ⟨.text reason, List.mem_singleton_self _, rfl⟩
  | missionChanged newMission =>
      cases List.mem_singleton.mp mem
      exact ⟨.text newMission, List.mem_singleton_self _, rfl⟩
  | speedIncreased amount =>
      cases List.mem_singleton.mp mem
      exact ⟨.integer amount.toInt, List.mem_singleton_self _, checks amount⟩
  | speedDecreased amount =>
      cases List.mem_singleton.mp mem
      exact ⟨.integer amount.toInt, List.mem_singleton_self _, checks amount⟩

theorem checkMembers_of_fits {kind : EventKind} {members : List (String × Json)}
    (fits : ∀ entry ∈ members, ∀ value, (entry.1, value) ∈ kind.fields → entry.2 = value) :
    checkMembers kind.type members = .ok () := by
  induction members with
  | nil =>
      rfl
  | cons entry rest ih =>
      rcases entry with ⟨name, value⟩
      have later := ih fun entry mem => fits entry (List.mem_cons_of_mem _ mem)
      unfold checkMembers
      cases known : (fields kind.type).lookup name with
      | none =>
          exact later
      | some wanted =>
          rcases check_of_lookup known with ⟨told, shown, checked⟩
          have same : value = told := fits _ List.mem_cons_self told shown
          rw [← same] at checked
          show (wanted.check value >>= fun _ => checkMembers kind.type rest) = _
          rw [checked]
          exact later

theorem read_eq_ok_iff_source {kind : EventKind} {message : Json} :
    read kind.type message = .ok kind ↔ ∃ source,
      Payload.source kind.type message = .ok source ∧
        (∀ entry ∈ kind.fields.zipIdx, source.value? entry.2 entry.1.1 = some entry.1.2) ∧
          source.finish kind.type = .ok () := by
  unfold read
  rw [bind_eq_ok_iff]
  refine exists_congr fun source => and_congr_right fun _ => ?_
  -- each field is peeled off in the order in which it is read
  cases kind <;>
    simp only [EventKind.type, EventKind.fields, bind_eq_ok_iff, field_eq_ok_iff,
      readText_eq_ok_iff, readAmount_eq_ok_iff, pure, Except.pure, Except.ok.injEq,
      List.zipIdx_cons, List.zipIdx_nil, List.forall_mem_cons] <;>
    grind

theorem source_eq_ok_iff {type : EventType} {message : Json} {source : Source} :
    Payload.source type message = .ok source ↔
      (∃ members, message = .object members ∧ checkMembers type members = .ok () ∧
        source = .named members) ∨
      ∃ items, message = .array items ∧ source = .listed items := by
  cases message with
  | object members =>
      constructor
      · intro told
        rcases exists_of_bind_eq_ok told with ⟨_, checked, same⟩
        cases same
        exact .inl ⟨members, rfl, checked, rfl⟩
      · rintro (⟨_, same, checked, rfl⟩ | ⟨_, same, _⟩)
        · cases same
          show (checkMembers type members >>= _) = _
          rw [checked]
          rfl
        · cases same
  | array items =>
      constructor
      · intro told
        cases told
        exact .inr ⟨items, rfl, rfl⟩
      · rintro (⟨_, same, _⟩ | ⟨_, same, rfl⟩)
        · cases same
        · cases same
          rfl
  | _ =>
      simp [Payload.source]

theorem length_fields (kind : EventKind) : (fields kind.type).length = kind.fields.length := by
  cases kind <;> rfl

theorem listed_iff {kind : EventKind} {items : List Json} :
    ((∀ entry ∈ kind.fields.zipIdx,
        (Source.listed items).value? entry.2 entry.1.1 = some entry.1.2) ∧
      (Source.listed items).finish kind.type = .ok ()) ↔ items = kind.fields.map (·.2) := by
  unfold Source.finish
  dsimp only
  rw [length_fields]
  constructor
  · rintro ⟨held, finished⟩
    have few : items.length ≤ kind.fields.length := by
      apply Nat.not_lt.mp
      intro many
      rw [if_pos many] at finished
      cases finished
    apply List.ext_getElem?
    intro place
    rw [List.getElem?_map]
    cases field : kind.fields[place]? with
    | none =>
        rw [List.getElem?_eq_none_iff] at field
        exact List.getElem?_eq_none (Nat.le_trans few field)
    | some field' =>
        exact held (field', place) (List.mem_zipIdx_iff_getElem?.mpr field)
  · rintro rfl
    rw [List.length_map, if_neg (Nat.lt_irrefl _)]
    refine ⟨?_, rfl⟩
    rintro ⟨field, place⟩ mem
    have there : kind.fields[place]? = some field := List.mem_zipIdx_iff_getElem?.mp mem
    show (kind.fields.map (·.2))[place]? = _
    rw [List.getElem?_map, there]
    rfl

theorem read_eq_ok_iff {kind : EventKind} {message : Json} (keyed : message.Keyed) :
    read kind.type message = .ok kind ↔ ∃ layout, kind.Shown layout message := by
  rw [read_eq_ok_iff_source]
  constructor
  · rintro ⟨source, sourced, held, finished⟩
    rcases source_eq_ok_iff.mp sourced with ⟨members, rfl, _, rfl⟩ | ⟨items, rfl, rfl⟩
    · refine ⟨.named, .named fun field mem => ?_⟩
      rcases List.mem_iff_getElem?.mp mem with ⟨place, there⟩
      exact held (field, place) (List.mem_zipIdx_iff_getElem?.mpr there)
    · rw [listed_iff.mp ⟨held, finished⟩]
      exact ⟨.listed, .listed⟩
  · rintro ⟨layout, shown⟩
    cases shown with
    | @named members shown =>
        refine ⟨.named members, source_eq_ok_iff.mpr (.inl ⟨members, rfl, ?_, rfl⟩), ?_, rfl⟩
        · apply checkMembers_of_fits
          intro entry mem value field
          have found := Json.lookup_of_mem keyed mem
          rw [shown _ field] at found
          exact (Option.some.inj found).symm
        · rintro ⟨field, place⟩ mem
          have there : kind.fields[place]? = some field := List.mem_zipIdx_iff_getElem?.mp mem
          exact shown field (List.mem_of_getElem? there)
    | listed =>
        rcases listed_iff.mpr rfl with ⟨held, finished⟩
        exact ⟨_, source_eq_ok_iff.mpr (.inr ⟨_, rfl, rfl⟩), held, finished⟩

end Payload

/-! ## Values of metadata -/

theorem Json.Document.readText_eq_ok_iff {document : Document} {text : String} :
    document.readText = .ok text ↔ document = .text (.ok text) := by
  constructor
  · intro told
    cases document with
    | text content =>
        cases content with
        | ok read =>
            cases told
            rfl
        | error fault =>
            cases told
    | _ =>
        cases told
  · rintro rfl
    rfl

theorem Json.Document.readOptionalText_eq_ok_iff {document : Document} {text : Option String} :
    document.readOptionalText = .ok text ↔
      document = .null ∧ text = none ∨ ∃ read, document = .text (.ok read) ∧ text = some read := by
  by_cases there : document = .null
  · subst there
    constructor
    · intro told
      cases told
      exact .inl ⟨rfl, rfl⟩
    · rintro (⟨_, rfl⟩ | ⟨_, same, _⟩)
      · rfl
      · cases same
  · have asked : document.readOptionalText = document.readText.map some := by
      cases document with
      | null =>
          exact absurd rfl there
      | _ =>
          rfl
    rw [asked]
    constructor
    · intro told
      rcases exists_of_map_eq_ok told with ⟨read, told, same⟩
      exact .inr ⟨read, readText_eq_ok_iff.mp told, same.symm⟩
    · rintro (⟨same, _⟩ | ⟨read, rfl, rfl⟩)
      · exact absurd same there
      · rfl

theorem Metadata.readNumber_eq_ok_iff {document : Document} {n : UInt64} :
    readNumber document = .ok n ↔
      ∃ numeral, document = .number numeral ∧ numeral.value = .ok (.integer n.toNat) := by
  constructor
  · intro told
    rcases exists_of_map_eq_ok told with ⟨i, counted, rfl⟩
    cases document with
    | number numeral =>
        rcases exists_of_bind_eq_ok counted with ⟨number, read, ranged⟩
        rcases Json.Number.toInt_eq_ok_iff.mp ranged with ⟨rfl, holds⟩
        have range := of_decide_eq_true holds
        have same : ((UInt64.ofNat i.toNat).toNat : Int) = i := by
          rw [UInt64.toNat_ofNat']
          omega
        refine ⟨numeral, rfl, ?_⟩
        rw [same]
        cases value : numeral.value with
        | error fault =>
            rw [value] at read
            cases read
        | ok found =>
            rw [value] at read
            cases read
            rfl
    | _ =>
        cases counted
  · rintro ⟨numeral, rfl, value⟩
    have counted : (Document.number numeral).readInt .unsigned = .ok (n.toNat : Int) := by
      show (Document.lifted numeral.value >>= Json.Number.toInt .unsigned) = _
      rw [value]
      exact Json.Number.toInt_of_holds (holds_toNat n)
    unfold readNumber
    rw [counted]
    simp [Except.map]

end MissionControl
