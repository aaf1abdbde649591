import MissionControl.Proofs.Event.Resolution

/-!
# Identities of events

An identity ends with a type, a number and a time, and no colon stands in any of the three.  So it
tells its channel, whatever text that is, and the three after it: events are taken for one exactly
if they agree in all four, a time counting by its milliseconds.
-/

namespace MissionControl

/-! ## Parts of an identity -/

theorem notMem_lowerCase_name (type : EventType) : ':' ∉ (Text.lowerCase type.name).toList := by
  cases type <;> decide +kernel

theorem lowerCase_name_inj {type other : EventType}
    (h : Text.lowerCase type.name = Text.lowerCase other.name) : type = other := by
  revert h
  cases type <;> cases other <;> decide +kernel

theorem notMem_repr_nat (n : Nat) : ':' ∉ n.repr.toList := by
  intro mem
  rw [Nat.toList_repr] at mem
  have digit := Nat.isDigit_of_mem_toDigits (by decide) (by decide) mem
  cases digit

theorem repr_nat_inj {m n : Nat} (h : m.repr = n.repr) : m = n := by
  have digits : Nat.toDigits 10 m = Nat.toDigits 10 n := by
    rw [← Nat.toList_repr, ← Nat.toList_repr, h]
  have value := congrArg (fun digits => Nat.ofDigitChars 10 digits 0) digits
  simpa using value

theorem toList_repr_negSucc (m : Nat) :
    (Int.negSucc m).repr.toList = '-' :: m.succ.repr.toList :=
  String.toList_append

theorem notMem_repr_int (n : Int) : ':' ∉ n.repr.toList := by
  cases n with
  | ofNat m =>
      exact notMem_repr_nat m
  | negSucc m =>
      rw [toList_repr_negSucc]
      intro mem
      rcases List.mem_cons.mp mem with sign | digits
      · cases sign
      · exact notMem_repr_nat m.succ digits

theorem repr_nat_ne_signed (m : Nat) (digits : List Char) : m.repr.toList ≠ '-' :: digits := by
  intro same
  have sign : '-' ∈ Nat.toDigits 10 m := by
    rw [← Nat.toList_repr, same]
    exact List.mem_cons_self
  have digit := Nat.isDigit_of_mem_toDigits (by decide) (by decide) sign
  cases digit

theorem repr_int_inj {m n : Int} (h : m.repr = n.repr) : m = n := by
  have told := congrArg String.toList h
  cases m with
  | ofNat m =>
      cases n with
      | ofNat n =>
          exact congrArg Int.ofNat (repr_nat_inj h)
      | negSucc n =>
          rw [toList_repr_negSucc] at told
          exact absurd told (repr_nat_ne_signed m _)
  | negSucc m =>
      cases n with
      | ofNat n =>
          rw [toList_repr_negSucc] at told
          exact absurd told.symm (repr_nat_ne_signed n _)
      | negSucc n =>
          rw [toList_repr_negSucc, toList_repr_negSucc] at told
          have same := repr_nat_inj (String.toList_inj.mp (List.cons.inj told).2)
          exact congrArg Int.negSucc (Nat.succ.inj same)

/-! ## Identities told apart -/

theorem eq_of_append_mark {α : Type} {mark : α} {first second one other : List α}
    (unmarked : mark ∉ one) (unmarkedOther : mark ∉ other)
    (same : first ++ mark :: one = second ++ mark :: other) : first = second := by
  rcases List.append_eq_append_iff.mp same with ⟨more, longer, rest⟩ | ⟨more, longer, rest⟩
  · cases more with
    | nil =>
        rw [longer, List.append_nil]
    | cons head tail =>
        rcases List.cons.inj rest with ⟨_, rest⟩
        rw [rest] at unmarked
        exact absurd (List.mem_append_right tail List.mem_cons_self) unmarked
  · cases more with
    | nil =>
        rw [longer, List.append_nil]
    | cons head tail =>
        rcases List.cons.inj rest with ⟨_, rest⟩
        rw [rest] at unmarkedOther
        exact absurd (List.mem_append_right tail List.mem_cons_self) unmarkedOther

theorem toList_identity (channel typeName : String) (number : UInt64) (time : Option Instant) :
    (identity channel typeName number time).toList =
      ((channel.toList ++ ':' :: (Text.lowerCase typeName).toList) ++
        ':' :: number.toNat.repr.toList) ++ ':' :: (identityMilliseconds time).repr.toList := by
  simp [identity, legacyIdentity, toString]

theorem identity_inj {channel other : String} {type type' : EventType} {number number' : UInt64}
    {time time' : Option Instant} :
    identity channel type.name number time = identity other type'.name number' time' ↔
      channel = other ∧ type = type' ∧ number = number' ∧
        identityMilliseconds time = identityMilliseconds time' := by
  constructor
  · intro same
    have told := congrArg String.toList same
    rw [toList_identity, toList_identity] at told
    -- the parts come off from the end, and then each is compared with its own
    have timeless := eq_of_append_mark (notMem_repr_int _) (notMem_repr_int _) told
    have numberless := eq_of_append_mark (notMem_repr_nat _) (notMem_repr_nat _) timeless
    have bare := eq_of_append_mark (notMem_lowerCase_name type) (notMem_lowerCase_name type')
      numberless
    rw [timeless, List.append_cancel_left_eq, List.cons.injEq, String.toList_inj] at told
    rw [numberless, List.append_cancel_left_eq, List.cons.injEq, String.toList_inj] at timeless
    rw [bare, List.append_cancel_left_eq, List.cons.injEq, String.toList_inj] at numberless
    constructor
    · exact String.toList_inj.mp bare
    constructor
    · exact lowerCase_name_inj numberless.2
    constructor
    · exact UInt64.toNat_inj.mp (repr_nat_inj timeless.2)
    · exact repr_int_inj told.2
  · rintro ⟨rfl, rfl, rfl, moment⟩
    simp only [identity, moment]

theorem channel_of_identity {channel other : String} {type type' : EventType}
    {number number' : UInt64} {time time' : Option Instant}
    (same : identity channel type.name number time = identity other type'.name number' time') :
    channel = other :=
  (identity_inj.mp same).1

/-! ## Events that were delivered -/

def NamesEventOf (channel eventId : String) : Prop :=
  ∃ (type : EventType) (number : UInt64) (time : Option Instant),
    eventId = identity channel type.name number time

theorem NamesEventOf.unique {channel other eventId : String} (h : NamesEventOf channel eventId)
    (h' : NamesEventOf other eventId) : channel = other := by
  rcases h with ⟨type, number, time, same⟩
  rcases h' with ⟨type', number', time', same'⟩
  exact channel_of_identity (same.symm.trans same')

namespace RocketEvent

theorem eventId_of_ofBody {body : Bytes} {event : RocketEvent} (h : ofBody body = .ok event) :
    event.eventId = identity event.rocketId event.kind.type.name event.number event.time :=
  congrArg eventId (eq_ofFields_of_ofBody h)

theorem namesEventOf_ofBody {body : Bytes} {event : RocketEvent} (h : ofBody body = .ok event) :
    NamesEventOf event.rocketId event.eventId :=
  ⟨event.kind.type, event.number, event.time, eventId_of_ofBody h⟩

end RocketEvent

/-! ## Events taken for one -/

def Instant.yearOne : Instant := ⟨(Time.Date.mk 1 1 1).dayNumber * 86400, 0⟩

theorem milliseconds_yearOne : Instant.yearOne.milliseconds = unsetMilliseconds := by
  decide

theorem identityMilliseconds_eq (time : Option Instant) :
    identityMilliseconds time = (time.getD .yearOne).milliseconds := by
  cases time with
  | none =>
      exact milliseconds_yearOne.symm
  | some t =>
      rfl

/--
Two accepted messages are taken for deliveries of one event exactly if they agree in channel, type,
number and millisecond, a missing time counting as the first moment of the year 1.
-/
theorem RocketEvent.eventId_eq_iff {body body' : Bytes} {event event' : RocketEvent}
    (accepted : ofBody body = .ok event) (accepted' : ofBody body' = .ok event') :
    event.eventId = event'.eventId ↔
      event.rocketId = event'.rocketId ∧ event.kind.type = event'.kind.type ∧
        event.number = event'.number ∧
          (event.time.getD .yearOne).milliseconds = (event'.time.getD .yearOne).milliseconds := by
  rw [eventId_of_ofBody accepted, eventId_of_ofBody accepted', identity_inj,
    identityMilliseconds_eq, identityMilliseconds_eq]

def namedLayout : Bytes :=
  ("\x7b\"metadata\":\x7b\"channel\":\"a:rocketlaunched:1\",\"messageNumber\":2," ++
    "\"messageTime\":\"2022-02-02T19:40:05.8634+01:00\"," ++
    "\"messageType\":\"RocketSpeedIncreased\"\x7d," ++
    "\"message\":\x7b\"by\":3000\x7d\x7d").toUTF8.toList

def listedLayout : Bytes :=
  ("[[\"a:rocketlaunched:1\", 2, \"2022-02-02T18:40:05.863999Z\", \"RocketSpeedIncreased\"]," ++
    "[500]]").toUTF8.toList

def namedChange : RocketEvent :=
  .ofFields (.speedIncreased 3000) "a:rocketlaunched:1" 2 (some ⟨1643827205, 863400000⟩)

def listedChange : RocketEvent :=
  .ofFields (.speedIncreased 500) "a:rocketlaunched:1" 2 (some ⟨1643827205, 863999000⟩)

theorem ofBody_namedLayout : RocketEvent.ofBody namedLayout = .ok namedChange := by
  apply eq_ok_of_toOption_eq_some
  decide +kernel

theorem ofBody_listedLayout : RocketEvent.ofBody listedLayout = .ok listedChange := by
  apply eq_ok_of_toOption_eq_some
  decide +kernel

theorem eventId_of_layouts : RocketEvent.ofBody namedLayout = .ok namedChange ∧
    RocketEvent.ofBody listedLayout = .ok listedChange ∧
      namedChange.eventId = listedChange.eventId := by
  constructor
  · exact ofBody_namedLayout
  constructor
  · exact ofBody_listedLayout
  · apply (RocketEvent.eventId_eq_iff ofBody_namedLayout ofBody_listedLayout).mpr
    exact ⟨rfl, rfl, rfl, by decide⟩

end MissionControl
