import MissionControl.Proofs.Delivery.Course
import MissionControl.StandIn.Locks

/-!
# The outcome of a delivery

A delivery is either applied, and then its event is handled once and stays claimed, or it leaves
the records of all rockets and all live claims as they were.  In both cases it is settled by its
result.
-/

namespace MissionControl
namespace World

variable {L : Type} [LockStore L] {p : Processor} {body : Bytes} {now : Instant}
  {w w' : World L ClaimRecords Fleet} {result : Except DeliveryFault String}

/-! ## What a course leaves -/

namespace Course

theorem exists_applied (h : Course p body now w result w')
    (succeeded : Processor.isApplied result = true) :
    ∃ event expiry, Applied p body now w result w' event expiry := by
  cases h with
  | unclaimed failed claims rockets =>
      rw [failed] at succeeded
      cases succeeded
  | refused failed claims rockets =>
      rw [failed] at succeeded
      cases succeeded
  | dropped eventId expiry failed free claims rockets =>
      rw [failed] at succeeded
      cases succeeded
  | applied event expiry h =>
      exact ⟨event, expiry, h⟩

theorem rockets (h : Course p body now w result w')
    (failed : Processor.isApplied result = false) : w'.rockets = w.rockets := by
  cases h with
  | unclaimed _ claims rockets =>
      exact rockets
  | refused _ claims rockets =>
      exact rockets
  | dropped eventId expiry _ free claims rockets =>
      exact rockets
  | applied event expiry h =>
      rw [h.told.isApplied] at failed
      cases failed

/-- A delivery that is not applied leaves the claims that are live, and no others. -/
theorem liveAt (h : Course p body now w result w')
    (failed : Processor.isApplied result = false) {later : Instant} (le : now ≤ later)
    (eventId : String) : w'.claims.liveAt later eventId = w.claims.liveAt later eventId := by
  cases h with
  | unclaimed _ claims rockets =>
      rw [claims]
  | refused _ claims rockets =>
      rw [claims, ClaimRecords.liveAt_sweep eventId w.claims le]
  | dropped dropped expiry _ free claims rockets =>
      rw [claims, ClaimRecords.liveAt_forget_record]
      split
      · rename_i same
        rw [same, ClaimRecords.liveAt_eq_none free le]
      · exact ClaimRecords.liveAt_sweep eventId w.claims le
  | applied event expiry h =>
      rw [h.told.isApplied] at failed
      cases failed

end Course

namespace Applied

variable {event : RocketEvent} {expiry : Instant}

theorem claimed (h : Applied p body now w result w' event expiry) :
    w'.claims.expiries.get? event.eventId = some expiry := by
  rw [h.claims, ClaimRecords.get?_record, if_pos rfl]

end Applied

/-! ## Settling -/

theorem play_deliver {outcome : Except DeliveryFault String}
    (h : play (p.process body) w = (.returned outcome, w')) :
    play (p.deliver body .pending) w =
      (.returned (outcome, Processor.verdict outcome), w') := by
  unfold Processor.deliver
  rw [Script.bind_eq, play_bind_of_returned h]
  rfl

/--
A delivery of a rocket event is applied once and keeps its claim, or it leaves every record and
every live claim as they were.  It is acknowledged if it has a result, and refused otherwise.
-/
theorem deliver_applied_once_or_undone (guard : Guard) (mutex : Mutex) (retention : Duration)
    (body : Bytes) (w : World L ClaimRecords Fleet) (readings : Supply Instant)
    (going : w.clock = .going readings) (rising : readings.Rising)
    (calm : LocksAnswer (Processor.process ⟨.full guard, mutex, retention⟩ body) w) :
    ∃ result settlement w',
      play (Processor.deliver ⟨.full guard, mutex, retention⟩ body .pending) w =
        (.returned (result, settlement), w') ∧
      (∀ eventId, result = .ok eventId → settlement = .acknowledged) ∧
      (∀ cause, result = .error cause → settlement = .refused) ∧
      ((∃ event expiry,
          Applied ⟨.full guard, mutex, retention⟩ body readings.first w result w' event expiry ∧
            w'.claims.expiries.get? event.eventId = some expiry ∧
            ∀ text, text ≠ event.rocketId → w'.rockets.recordAt text = w.rockets.recordAt text) ∨
        (Processor.isApplied result = false ∧ w'.rockets = w.rockets ∧
          ∀ n eventId,
            w'.claims.liveAt (readings n) eventId = w.claims.liveAt (readings n) eventId)) := by
  have reads : w.clock.read = .returned readings.first := by
    rw [going]
    rfl
  rcases process_course rfl reads calm with ⟨result, w', played, course⟩
  refine ⟨result, Processor.verdict result, w', play_deliver played, ?_, ?_, ?_⟩
  · intro eventId told
    rw [told]
    rfl
  · intro cause told
    rw [told]
    rfl
  · cases verdict : Processor.isApplied result with
    | true =>
        rcases course.exists_applied verdict with ⟨event, expiry, h⟩
        refine .inl ⟨event, expiry, h, h.claimed, ?_⟩
        intro text apart
        rcases h.once with ⟨handler, before, after, held, once, _⟩
        have elsewhere := once.elsewhere apart
        rwa [played] at elsewhere
    | false =>
        exact .inr ⟨rfl, course.rockets verdict, fun n eventId =>
          course.liveAt verdict (rising.le (Nat.zero_le n)) eventId⟩

def accelerationBody : Bytes :=
  ("\x7b\"metadata\":\x7b\"channel\":\"193270a9-c9cf-404a-8f83-838e71d9ae67\"," ++
    "\"messageNumber\":2,\"messageTime\":\"2022-02-02T19:40:05.86337+01:00\"," ++
    "\"messageType\":\"RocketSpeedIncreased\"\x7d," ++
    "\"message\":\x7b\"by\":3000\x7d\x7d").toUTF8.toList

theorem ofBody_accelerationBody : RocketEvent.ofBody accelerationBody = .ok acceleration := by
  apply eq_ok_of_toOption_eq_some
  decide +kernel

def clinging : World AnyLocks ClaimRecords Fleet :=
  { locks := .unreleasable, claims := .start .epoch, rockets := oneRocket
    clock := .standing .epoch }

theorem acceleration_applied_and_refused :
    LocksAnswer (Processor.process ⟨.full .notAfter, {}, .ofSeconds 29⟩ accelerationBody)
        clinging ∧
      ∃ result w' event expiry,
        play (Processor.deliver ⟨.full .notAfter, {}, .ofSeconds 29⟩ accelerationBody .pending)
          clinging = (.returned (result, .refused), w') ∧
        Applied ⟨.full .notAfter, {}, .ofSeconds 29⟩ accelerationBody .epoch clinging result w'
          event expiry := by
  have script := Processor.process_of_ok ⟨.full .notAfter, {}, .ofSeconds 29⟩ acceleration
    ofBody_accelerationBody
  have rising : (Supply.always Instant.epoch).Rising := fun _ => Instant.le_refl _
  have calm : LocksAnswer
      (Processor.process ⟨.full .notAfter, {}, .ofSeconds 29⟩ accelerationBody) clinging := by
    rw [script]
    unfold LocksAnswer
    decide +kernel
  have refused : (play (Processor.deliver ⟨.full .notAfter, {}, .ofSeconds 29⟩ accelerationBody
      .pending) clinging).1.map (fun told => (Processor.isApplied told.1, told.2)) =
        .returned (true, .refused) := by
    unfold Processor.deliver
    rw [script]
    decide +kernel
  rcases deliver_applied_once_or_undone .notAfter {} (.ofSeconds 29) accelerationBody clinging
    (.always .epoch) rfl rising calm with ⟨result, settlement, w', played, _, _, outcome⟩
  rw [played] at refused
  injection refused with refused
  injection refused with applied settled
  subst settled
  refine ⟨calm, ?_⟩
  rcases outcome with ⟨event, expiry, h, _⟩ | ⟨failed, _⟩
  · exact ⟨result, w', event, expiry, played, h⟩
  · rw [applied] at failed
    cases failed

end World
end MissionControl
