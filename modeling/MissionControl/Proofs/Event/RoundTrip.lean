import MissionControl.Proofs.Event.Wire
import MissionControl.Proofs.Time.Rfc3339

/-!
# Events that are sent again

An event is read back from the body in which it is sent, with all its fields, exactly if its time
can be read back.  The time of a message is told in UTC, so a message that gives one near the edges
of the years 0 to 9999 with an offset may be accepted and not survive being sent again.  A time that
is not read from a text may be in a leap second that does not end its minute; it is written as the
second that follows, and read back as that.
-/

namespace MissionControl
namespace RocketEvent

variable {event : RocketEvent}

/-! ## Times in bodies -/

theorem ofBody_wire_of_none (event : RocketEvent) (unset : event.time = none) :
    ofBody event.wire = .ok (.ofFields event.kind event.rocketId event.number none) := by
  simp only [ofBody_wire, Envelope.time_ofEvent, unset]

theorem ofBody_wire_of_some (event : RocketEvent) {t : Instant} (set : event.time = some t) :
    ofBody event.wire = match Time.Rfc3339.parse t.text with
      | .error cause => .error (.badPayload event.kind.type.name (.time cause))
      | .ok read => .ok (.ofFields event.kind event.rocketId event.number (some read)) := by
  simp only [ofBody_wire, Envelope.time_ofEvent, set]
  cases Time.Rfc3339.parse t.text with
  | error cause =>
      rfl
  | ok read =>
      rfl

theorem onClock_of_ofBody {body : Bytes} (accepted : ofBody body = .ok event) :
    ∀ t ∈ event.time, t.OnClock := by
  intro t set
  rcases exists_envelope_of_ofBody accepted with ⟨e, _, tells⟩
  have moment := tells.time
  rw [set] at moment
  unfold Envelope.time at moment
  split at moment
  · cases moment
  · split at moment
    · cases moment
    · rcases exists_of_map_eq_ok moment with ⟨read, parsed, same⟩
      cases same
      exact Time.Rfc3339.onClock_of_parse parsed

/-! ## Round trips -/

/--
An event with the identity of its own fields is read back from what is sent of it, whatever texts
and integers it holds, exactly if it has no time, or one that is written with a year of four digits
and, if it is in a leap second, in one that ends its minute.
-/
theorem ofBody_wire_ofFields_iff (kind : EventKind) (channel : String) (number : UInt64)
    (time : Option Instant) :
    ofBody (ofFields kind channel number time).wire = .ok (ofFields kind channel number time) ↔
      ∀ t ∈ time, t.OnClock ∧ t.InFourDigits := by
  cases time with
  | none =>
      constructor
      · intro _ t set
        cases set
      · intro _
        exact ofBody_wire_of_none _ rfl
  | some t =>
      rw [ofBody_wire_of_some _ rfl]
      constructor
      · intro same u set
        cases set
        cases read : Time.Rfc3339.parse t.text with
        | error cause =>
            rw [read] at same
            cases same
        | ok u =>
            rw [read] at same
            have told := congrArg time (Except.ok.inj same)
            cases told
            exact Time.Rfc3339.parse_text_eq_ok_iff.mp read
      · intro written
        rw [Time.Rfc3339.parse_text_eq_ok_iff.mpr (written t rfl)]
        rfl

def strayExplosion : RocketEvent :=
  .ofFields (.exploded "PRESSURE_VESSEL_FAILURE") "193270a9-c9cf-404a-8f83-838e71d9ae67" 7
    (some ⟨30, 1500000000⟩)

/-- It is sent as second 31 of the year 1970, and that is what is read back. -/
theorem strayExplosion_moved :
    (∀ t ∈ strayExplosion.time, t.InFourDigits) ∧
      ofBody strayExplosion.wire = .ok (.ofFields strayExplosion.kind strayExplosion.rocketId
        strayExplosion.number (some ⟨31, 500000000⟩)) ∧
      ofBody strayExplosion.wire ≠ .ok strayExplosion := by
  have moved : ofBody strayExplosion.wire = .ok (.ofFields strayExplosion.kind
      strayExplosion.rocketId strayExplosion.number (some ⟨31, 500000000⟩)) := by
    have next : Time.Rfc3339.parse (⟨30, 1500000000⟩ : Instant).text = .ok ⟨31, 500000000⟩ := by
      apply eq_ok_of_toOption_eq_some
      decide +kernel
    rw [ofBody_wire_of_some strayExplosion rfl, next]
  refine ⟨?_, moved, ?_⟩
  · intro t set
    cases set
    decide +kernel
  · intro same
    rw [moved] at same
    have times := congrArg time (Except.ok.inj same)
    cases times

/--
A message that was accepted survives being sent again, unless its time falls, in UTC, out of the
years that are written with four digits: then it is refused for its time.
-/
theorem ofBody_wire_of_accepted {body : Bytes} (accepted : ofBody body = .ok event) :
    (ofBody event.wire = .ok event ↔ ∀ t ∈ event.time, t.InFourDigits) ∧
      ((∃ t ∈ event.time, ¬t.InFourDigits) →
        ofBody event.wire = .error (.badPayload event.kind.type.name (.time .invalid))) := by
  have own := eq_ofFields_of_ofBody accepted
  have clock := onClock_of_ofBody accepted
  cases set : event.time with
  | none =>
      constructor
      · constructor
        · intro _ t mem
          cases mem
        · intro _
          rw [ofBody_wire_of_none event set, ← set, ← own]
      · rintro ⟨t, mem, _⟩
        cases mem
  | some t =>
      have answer := ofBody_wire_of_some event set
      by_cases year : t.InFourDigits
      · have same : ofBody event.wire = .ok event := by
          rw [answer, Time.Rfc3339.parse_text_of_year (clock t set) year]
          dsimp only
          rw [← set, ← own]
        constructor
        · constructor
          · intro _ u mem
            cases mem
            exact year
          · intro _
            exact same
        · rintro ⟨u, mem, other⟩
          cases mem
          exact absurd year other
      · rw [Time.Rfc3339.parse_text_of_sign year] at answer
        constructor
        · rw [answer]
          constructor
          · intro same
            cases same
          · intro all
            exact absurd (all t rfl) year
        · intro _
          exact answer

def lastExplosion : RocketEvent :=
  .ofFields (.exploded "PRESSURE_VESSEL_FAILURE") "193270a9-c9cf-404a-8f83-838e71d9ae67" 7
    (some ⟨253402300799, 1500000000⟩)

def lastExplosionBody : Bytes :=
  ("\x7b\"metadata\":\x7b\"channel\":\"193270a9-c9cf-404a-8f83-838e71d9ae67\"," ++
    "\"messageNumber\":7,\"messageTime\":\"9999-12-31T18:59:60.50-05:00\"," ++
    "\"messageType\":\"RocketExploded\"\x7d," ++
    "\"message\":\x7b\"reason\":\"PRESSURE_VESSEL_FAILURE\"\x7d\x7d").toUTF8.toList

theorem ofBody_lastExplosionBody : ofBody lastExplosionBody = .ok lastExplosion := by
  apply eq_ok_of_toOption_eq_some
  decide +kernel

theorem lastExplosion_survives :
    ofBody lastExplosionBody = .ok lastExplosion ∧
      ofBody lastExplosion.wire = .ok lastExplosion := by
  constructor
  · exact ofBody_lastExplosionBody
  · apply (ofBody_wire_of_accepted ofBody_lastExplosionBody).1.mpr
    intro t set
    cases set
    decide +kernel

def earlyExplosion : RocketEvent :=
  .ofFields (.exploded "PRESSURE_VESSEL_FAILURE") "193270a9-c9cf-404a-8f83-838e71d9ae67" 7
    (some ⟨-62167222800, 0⟩)

def earlyExplosionBody : Bytes :=
  ("\x7b\"metadata\":\x7b\"channel\":\"193270a9-c9cf-404a-8f83-838e71d9ae67\"," ++
    "\"messageNumber\":7,\"messageTime\":\"0000-01-01T00:00:00+01:00\"," ++
    "\"messageType\":\"RocketExploded\"\x7d," ++
    "\"message\":\x7b\"reason\":\"PRESSURE_VESSEL_FAILURE\"\x7d\x7d").toUTF8.toList

/-- In UTC it falls in the year before, which is written with a sign. -/
theorem earlyExplosion_lost :
    ofBody earlyExplosionBody = .ok earlyExplosion ∧
      ofBody earlyExplosion.wire ≠ .ok earlyExplosion := by
  constructor
  · apply eq_ok_of_toOption_eq_some
    decide +kernel
  · intro same
    have signed : ¬(⟨-62167222800, 0⟩ : Instant).InFourDigits := by
      decide +kernel
    rw [ofBody_wire_of_some earlyExplosion rfl, Time.Rfc3339.parse_text_of_sign signed] at same
    cases same

end RocketEvent
end MissionControl
