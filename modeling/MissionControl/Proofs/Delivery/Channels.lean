import Mathlib.Data.List.Chain
import MissionControl.Proofs.Claim.Agreement
import MissionControl.Proofs.Delivery.Solitary
import MissionControl.Proofs.Event.Identity

/-!
# Channels apart

Deliveries are processed one after another over stores in memory, which all channels share.  What
they leave in the stores is told apart by channel: records by their text, claims by the identities
of events, and no lease is left at all.  So two worlds that look alike to a channel go on looking
alike, also where only one of them meets the deliveries of other channels.
-/

namespace MissionControl
namespace World

variable {now : Instant} {handlers : List (String × EventHandler)} {p : Processor}
  {event : RocketEvent} {w : World Leases ClaimRecords Fleet}

/-! ## Two worlds -/

/-- From some time on two worlds look alike to a channel. -/
structure Alike (channel : String) (now : Instant) (v w : World Leases ClaimRecords Fleet) :
    Prop where
  record : v.rockets.recordAt channel = w.rockets.recordAt channel
  claims : v.claims.Agree (NamesEventOf channel) now w.claims

namespace Alike

variable {channel : String} {v v' w' : World Leases ClaimRecords Fleet}
  {result result' : Except DeliveryFault String}

theorem refl (channel : String) (now : Instant) (w : World Leases ClaimRecords Fleet) :
    Alike channel now w w := by
  constructor
  · rfl
  · intro eventId mem later le
    rfl

theorem later (h : Alike channel now v w) {later : Instant} (le : now ≤ later) :
    Alike channel later v w :=
  ⟨h.record, h.claims.later le⟩

theorem completed (h : Alike event.rocketId now v w) (bus : p.bus = .ofHandlers handlers)
    (named : NamesEventOf event.rocketId event.eventId) (one : Completed p event now v result v')
    (other : Completed p event now w result' w') :
    result = result' ∧ Alike event.rocketId now v' w' := by
  rcases h.claims.claim named p.retention with ⟨same, agree⟩
  cases one with
  | unclaimed told refused claims rockets =>
      cases other with
      | unclaimed told' refused' claims' rockets' =>
          rw [← told, ← told', same]
          refine ⟨rfl, ?_, ?_⟩
          · rw [rockets, rockets', h.record]
          · rw [claims, claims']
            exact agree
      | dispatched granted plain claims' rockets' =>
          exact absurd (told.symm.trans (same.trans granted)) refused
  | dispatched granted plain claims rockets =>
      cases other with
      | unclaimed told refused claims' rockets' =>
          exact absurd (told.symm.trans (same.symm.trans granted)) refused
      | dispatched granted' plain' claims' rockets' =>
          rw [bus] at plain plain' rockets rockets'
          rcases (EventBus.about_dispatch handlers event).play_congr h.record with
            ⟨outcome, record⟩
          rw [plain, plain'] at outcome
          cases outcome
          refine ⟨rfl, ?_, ?_⟩
          · rw [rockets, rockets', record]
          · rw [claims, claims']
            unfold Processor.leftover
            split
            · exact agree
            · exact agree.forget event.eventId

theorem elsewhere (h : Alike channel now v w) (bus : p.bus = .ofHandlers handlers)
    (named : NamesEventOf event.rocketId event.eventId) (apart : event.rocketId ≠ channel)
    (one : Completed p event now v result v') : Alike channel now v' w := by
  have unnamed : ¬NamesEventOf channel event.eventId := by
    intro own
    exact apart (named.unique own)
  have claimed := h.claims.claim_elsewhere unnamed p.retention
  cases one with
  | unclaimed told refused claims rockets =>
      constructor
      · rw [rockets, h.record]
      · rw [claims]
        exact claimed
  | dispatched granted plain claims rockets =>
      rw [bus] at rockets
      constructor
      · rw [rockets, (EventBus.about_dispatch handlers event).play_elsewhere v apart.symm, h.record]
      · rw [claims]
        unfold Processor.leftover
        split
        · exact claimed
        · exact claimed.forget_elsewhere unnamed

end Alike

end World

/-! ## Deliveries one after another -/

/-- A body that is delivered, and the reading of the clock while it is processed. -/
structure Arrival where
  body : Bytes
  time : Instant

/-- Whether a body tells of an event of a channel. -/
def Arrival.isFor (channel : String) (arrival : Arrival) : Bool :=
  match RocketEvent.ofBody arrival.body with
  | .ok event => decide (event.rocketId = channel)
  | .error _ => false

theorem isFor_of_ok {body : Bytes} {event : RocketEvent} {channel : String} {time : Instant}
    (resolved : RocketEvent.ofBody body = .ok event) :
    (⟨body, time⟩ : Arrival).isFor channel = decide (event.rocketId = channel) := by
  simp only [Arrival.isFor, resolved]

namespace World

variable {handlers : List (String × EventHandler)} {p : Processor} {channel : String}
  {now : Instant} {arrival : Arrival} {v w : World Leases ClaimRecords Fleet}

def arrive (p : Processor) (arrival : Arrival) (w : World Leases ClaimRecords Fleet) :
    Outcome (Except DeliveryFault String) × World Leases ClaimRecords Fleet :=
  play (p.process arrival.body) { w with clock := .standing arrival.time }

def resultsOf (p : Processor) : List Arrival → World Leases ClaimRecords Fleet →
    List (Arrival × Outcome (Except DeliveryFault String))
  | [], _ => []
  | arrival :: rest, w =>
      (arrival, (arrive p arrival w).1) :: resultsOf p rest (arrive p arrival w).2

def afterAll (p : Processor) : List Arrival → World Leases ClaimRecords Fleet →
    World Leases ClaimRecords Fleet
  | [], w => w
  | arrival :: rest, w => afterAll p rest (arrive p arrival w).2

theorem process_unresolved {body : Bytes} {cause : ResolutionFault}
    (unresolved : RocketEvent.ofBody body = .error cause) (w : World Leases ClaimRecords Fleet) :
    play (p.process body) w = (.returned (.error (.unresolved cause)), w) := by
  unfold Processor.process
  rw [unresolved]
  rfl

theorem arrive_of_ok {body : Bytes} (resolved : RocketEvent.ofBody body = .ok event)
    (time : Instant) (w : World Leases ClaimRecords Fleet) :
    arrive p ⟨body, time⟩ w =
      play ((p.handleOnce event).task.bind fun outcome =>
        .done (Processor.concluded event.eventId outcome)) { w with clock := .standing time } := by
  unfold arrive
  rw [p.process_of_ok event resolved]

theorem arrive_completed (bus : p.bus = .ofHandlers handlers)
    (lasting : p.mutex.Lasting arrival.time)
    (resolved : RocketEvent.ofBody arrival.body = .ok event) (idle : w.locks = {}) :
    ∃ result w', arrive p arrival w = (.returned result, w') ∧
      Completed p event arrival.time { w with clock := .standing arrival.time } result w' ∧
      w'.locks = {} := by
  rcases process_completed bus lasting resolved (w := { w with clock := .standing arrival.time })
    (idle ▸ Leases.idle_empty arrival.time) rfl with ⟨result, w', played, completed, left⟩
  exact ⟨result, w', played, completed, (idle ▸ left).eq_empty⟩

theorem locks_arrive (bus : p.bus = .ofHandlers handlers)
    (lasting : p.mutex.Lasting arrival.time) (idle : w.locks = {}) :
    (arrive p arrival w).2.locks = {} := by
  cases resolved : RocketEvent.ofBody arrival.body with
  | error cause =>
      unfold arrive
      rw [process_unresolved resolved]
      exact idle
  | ok event =>
      rcases arrive_completed bus lasting resolved idle with ⟨result, w', played, _, left⟩
      rw [played]
      exact left

theorem locks_afterAll {arrivals : List Arrival} (bus : p.bus = .ofHandlers handlers)
    (lasting : ∀ arrival ∈ arrivals, p.mutex.Lasting arrival.time) (idle : w.locks = {}) :
    (afterAll p arrivals w).locks = {} := by
  induction arrivals generalizing w with
  | nil =>
      exact idle
  | cons arrival rest ih =>
      rcases List.forall_mem_cons.mp lasting with ⟨first, others⟩
      exact ih others (locks_arrive bus first idle)

namespace Alike

/-- Both worlds meet a delivery of the channel. -/
theorem arrive (h : Alike channel now v w) (le : now ≤ arrival.time) (idleV : v.locks = {})
    (idleW : w.locks = {}) (bus : p.bus = .ofHandlers handlers)
    (lasting : p.mutex.Lasting arrival.time) (own : arrival.isFor channel = true) :
    (arrive p arrival v).1 = (arrive p arrival w).1 ∧
      Alike channel arrival.time (arrive p arrival v).2 (arrive p arrival w).2 ∧
      (arrive p arrival v).2.locks = {} ∧ (arrive p arrival w).2.locks = {} := by
  unfold Arrival.isFor at own
  cases resolved : RocketEvent.ofBody arrival.body with
  | error cause =>
      rw [resolved] at own
      cases own
  | ok event =>
      rw [resolved] at own
      have here : event.rocketId = channel := of_decide_eq_true own
      subst here
      have named := RocketEvent.namesEventOf_ofBody resolved
      rcases arrive_completed bus lasting resolved idleV with
        ⟨result, v', played, completed, left⟩
      rcases arrive_completed bus lasting resolved idleW with
        ⟨result', w', played', completed', left'⟩
      have timed : Alike event.rocketId arrival.time { v with clock := .standing arrival.time }
          { w with clock := .standing arrival.time } := ⟨h.record, (h.later le).claims⟩
      rcases timed.completed bus named completed completed' with ⟨same, alike⟩
      rw [played, played', same]
      exact ⟨rfl, alike, left, left'⟩

/-- Only one of the worlds meets a delivery, which is of no event of the channel. -/
theorem arrive_elsewhere (h : Alike channel now v w) (le : now ≤ arrival.time)
    (idle : v.locks = {}) (bus : p.bus = .ofHandlers handlers)
    (lasting : p.mutex.Lasting arrival.time) (apart : arrival.isFor channel = false) :
    Alike channel arrival.time (World.arrive p arrival v).2 w ∧
      (World.arrive p arrival v).2.locks = {} := by
  have timed : Alike channel arrival.time { v with clock := .standing arrival.time } w :=
    ⟨h.record, (h.later le).claims⟩
  refine ⟨?_, locks_arrive bus lasting idle⟩
  unfold Arrival.isFor at apart
  cases resolved : RocketEvent.ofBody arrival.body with
  | error cause =>
      unfold World.arrive
      rw [process_unresolved resolved]
      exact timed
  | ok event =>
      rw [resolved] at apart
      have elsewhere : event.rocketId ≠ channel := of_decide_eq_false apart
      rcases arrive_completed bus lasting resolved idle with ⟨result, v', played, completed, _⟩
      rw [played]
      exact timed.elsewhere bus (RocketEvent.namesEventOf_ofBody resolved) elsewhere completed

/-- Deliveries to one world, and those of the channel among them to the other. -/
theorem run {arrivals : List Arrival} (h : Alike channel now v w) (idleV : v.locks = {})
    (idleW : w.locks = {}) (bus : p.bus = .ofHandlers handlers)
    (rising : List.IsChain (· ≤ ·) (now :: arrivals.map (·.time)))
    (lasting : ∀ arrival ∈ arrivals, p.mutex.Lasting arrival.time) :
    (resultsOf p arrivals v).filter (·.1.isFor channel) =
        resultsOf p (arrivals.filter (·.isFor channel)) w ∧
      (afterAll p arrivals v).rockets.recordAt channel =
        (afterAll p (arrivals.filter (·.isFor channel)) w).rockets.recordAt channel := by
  induction arrivals generalizing now v w with
  | nil =>
      exact ⟨rfl, h.record⟩
  | cons arrival rest ih =>
      rcases List.isChain_cons_cons.mp rising with ⟨le, rising⟩
      rcases List.forall_mem_cons.mp lasting with ⟨first, others⟩
      cases own : arrival.isFor channel with
      | true =>
          rcases h.arrive le idleV idleW bus first own with ⟨same, alike, leftV, leftW⟩
          rcases ih alike leftV leftW rising others with ⟨results, record⟩
          rw [List.filter_cons_of_pos (by simp [own]), resultsOf, resultsOf, afterAll, afterAll,
            List.filter_cons_of_pos (by simp [own]), results, record, same]
          exact ⟨rfl, rfl⟩
      | false =>
          -- the other world stands still, and its time is left behind
          rcases h.arrive_elsewhere le idleV bus first own with ⟨alike, left⟩
          rcases ih alike left idleW rising others with ⟨results, record⟩
          rw [List.filter_cons_of_neg (by simp [own]), resultsOf, afterAll,
            List.filter_cons_of_neg (by simp [own]), results, record]
          exact ⟨rfl, rfl⟩

end Alike

/--
Deliveries of other channels change neither what the deliveries of a channel come to nor the
record that they leave, wherever they stand among them.
-/
theorem channels_apart (p : Processor) (handlers : List (String × EventHandler))
    (bus : p.bus = .ofHandlers handlers) (arrivals : List Arrival)
    (rising : (arrivals.map (·.time)).IsChain (· ≤ ·))
    (lasting : ∀ arrival ∈ arrivals, p.mutex.Lasting arrival.time)
    (w : World Leases ClaimRecords Fleet) (idle : w.locks = {}) (channel : String) :
    (resultsOf p arrivals w).filter (·.1.isFor channel) =
        resultsOf p (arrivals.filter (·.isFor channel)) w ∧
      (afterAll p arrivals w).rockets.recordAt channel =
        (afterAll p (arrivals.filter (·.isFor channel)) w).rockets.recordAt channel := by
  cases arrivals with
  | nil =>
      exact ⟨rfl, rfl⟩
  | cons first rest =>
      have fromFirst : List.IsChain (· ≤ ·) (first.time :: (first :: rest).map (·.time)) :=
        List.isChain_cons_cons.mpr ⟨Instant.le_refl first.time, rising⟩
      exact (Alike.refl channel first.time w).run idle idle bus fromFirst lasting

def otherLaunch : RocketEvent :=
  .ofFields (.launched "Falcon-9" 500 "ARTEMIS") "0b7d2f4e-5c8a-4b31-9d1a-2f3e4c5d6e7f" 1
    (some ⟨1643827145, 0⟩)

def otherLaunchBody : Bytes :=
  ("\x7b\"metadata\":\x7b\"channel\":\"0b7d2f4e-5c8a-4b31-9d1a-2f3e4c5d6e7f\"," ++
    "\"messageNumber\":1,\"messageTime\":\"2022-02-02T19:39:05+01:00\"," ++
    "\"messageType\":\"RocketLaunched\"\x7d,\"message\":\x7b\"type\":\"Falcon-9\"," ++
    "\"launchSpeed\":500,\"mission\":\"ARTEMIS\"\x7d\x7d").toUTF8.toList

theorem ofBody_otherLaunchBody : RocketEvent.ofBody otherLaunchBody = .ok otherLaunch := by
  apply eq_ok_of_toOption_eq_some
  decide +kernel

def resting : World Leases ClaimRecords Fleet :=
  { locks := {}, claims := .start .epoch, rockets := oneRocket, clock := .standing .epoch }

def retaining : Processor := { bus := .full .strictlyAfter, retention := .ofSeconds 29 }

def mixed : List Arrival :=
  [⟨accelerationBody, ⟨0, 0⟩⟩, ⟨otherLaunchBody, ⟨9, 0⟩⟩, ⟨accelerationBody, ⟨28, 0⟩⟩]

theorem launch_apart_from_acceleration :
    (mixed.map (·.time)).IsChain (· ≤ ·) ∧
      (∀ arrival ∈ mixed, retaining.mutex.Lasting arrival.time) ∧
      (resultsOf retaining mixed resting).map (fun told => told.2.map Processor.isApplied) =
        [.returned true, .returned true, .returned false] ∧
      (resultsOf retaining mixed resting).filter (·.1.isFor acceleration.rocketId) =
        resultsOf retaining [⟨accelerationBody, ⟨0, 0⟩⟩, ⟨accelerationBody, ⟨28, 0⟩⟩] resting := by
  have rising : (mixed.map (·.time)).IsChain (· ≤ ·) := by
    decide +kernel
  have tellable : ∀ arrival ∈ mixed,
      (arrival.time.after? retaining.mutex.expiry).isSome = true := by
    decide +kernel
  have lasting : ∀ arrival ∈ mixed, retaining.mutex.Lasting arrival.time := by
    intro arrival mem
    exact ⟨by decide, by decide, tellable arrival mem⟩
  have own : mixed.filter (·.isFor acceleration.rocketId) =
      [⟨accelerationBody, ⟨0, 0⟩⟩, ⟨accelerationBody, ⟨28, 0⟩⟩] := by
    have apart : otherLaunch.rocketId ≠ acceleration.rocketId := by
      decide
    have speedChange (time : Instant) :
        (⟨accelerationBody, time⟩ : Arrival).isFor acceleration.rocketId = true := by
      rw [isFor_of_ok ofBody_accelerationBody, decide_eq_true rfl]
    have launch (time : Instant) :
        (⟨otherLaunchBody, time⟩ : Arrival).isFor acceleration.rocketId = false := by
      rw [isFor_of_ok ofBody_otherLaunchBody, decide_eq_false apart]
    rw [mixed, List.filter_cons_of_pos (speedChange _), List.filter_cons_of_neg (by simp [launch]),
      List.filter_cons_of_pos (speedChange _), List.filter_nil]
  refine ⟨rising, lasting, ?_, ?_⟩
  · rw [mixed, resultsOf, resultsOf, resultsOf, resultsOf, arrive_of_ok ofBody_otherLaunchBody,
      arrive_of_ok ofBody_accelerationBody, arrive_of_ok ofBody_accelerationBody]
    decide +kernel
  · rw [← own]
    exact (channels_apart retaining _ rfl mixed rising lasting resting rfl
      acceleration.rocketId).1

end World
end MissionControl
