import MissionControl.Proofs.Delivery.Outcome
import MissionControl.Proofs.Event.Locality
import MissionControl.Proofs.Lock.Undisputed

/-!
# Deliveries one at a time

A delivery that is processed while no one has a live lease is granted its lock at once and leaves
no new lease.  It comes to what its claim and a dispatch without any lock come to.
-/

namespace MissionControl

/-! ## Dispatches without a lock -/

theorem Script.About.play_congr_rockets {L C α : Type} [LockStore L] [ClaimStore C] {text : String}
    {s : Script α} (h : s.About text) {v w : World L C Fleet} (same : v.rockets = w.rockets) :
    (World.play s v).1 = (World.play s w).1 ∧
      (World.play s v).2.rockets = (World.play s w).2.rockets := by
  rcases h.play_congr (congrArg (Fleet.recordAt text) same) with ⟨outcome, record⟩
  refine ⟨outcome, ?_⟩
  apply Fleet.ext_recordAt
  intro other
  by_cases here : other = text
  · rw [here, record]
  · rw [h.play_elsewhere v here, h.play_elsewhere w here, same]

namespace EventBus

theorem about_dispatch (handlers : List (String × EventHandler)) (event : RocketEvent) :
    ((ofHandlers handlers).dispatch event).About event.rocketId := by
  cases found : (ofHandlers handlers).handler? event.kind.type.name with
  | none =>
      rw [World.dispatch_of_none found]
      exact .done _
  | some registered =>
      rcases exists_of_handler?_ofHandlers found with ⟨handler, rfl⟩
      rw [World.dispatch_of_some found]
      exact (handler.about_handle event).bind fun result => .done _

theorem about_dispatch_full (guard : Guard) (event : RocketEvent) :
    ((full guard).dispatch event).About event.rocketId :=
  about_dispatch _ event

end EventBus

namespace World

variable {now : Instant} {handlers : List (String × EventHandler)} {p : Processor}
  {event : RocketEvent}

theorem handle_returns {L C : Type} [LockStore L] [ClaimStore C] (handler : EventHandler)
    (event : RocketEvent) (w : World L C Fleet) :
    ∃ result w', play (handler.handle event) w = (.returned result, w') := by
  rcases play_handle handler event w with ⟨failure, played⟩ | ⟨r, _, played⟩
  · exact ⟨_, _, played⟩
  · exact ⟨_, _, played⟩

/-- Under a lock that no one has, an event is dispatched as it is without one. -/
theorem dispatchExclusively_of_idle {C : Type} [ClaimStore C]
    (handlers : List (String × EventHandler)) (event : RocketEvent) {m : Mutex}
    (lasting : m.Lasting now) {w : World Leases C Fleet} (idle : w.locks.Idle now)
    (clock : w.clock = .standing now) :
    ∃ result w', play ((EventBus.ofHandlers handlers).dispatchExclusively m event) w =
        (.returned result, w') ∧
      (play ((EventBus.ofHandlers handlers).dispatch event) w).1 = .returned result ∧
      w'.rockets = (play ((EventBus.ofHandlers handlers).dispatch event) w).2.rockets ∧
      w'.claims = w.claims ∧ w'.locks.Within w.locks := by
  cases found : (EventBus.ofHandlers handlers).handler? event.kind.type.name with
  | none =>
      rw [dispatchExclusively_of_none m found, dispatch_of_none found]
      exact ⟨_, w, rfl, rfl, rfl, rfl, .refl w.locks⟩
  | some registered =>
      rcases EventBus.exists_of_handler?_ofHandlers found with ⟨handler, rfl⟩
      rcases Option.isSome_iff_exists.mp lasting.tellable with ⟨expires, after⟩
      have only := handler.only_handle event
      rcases handle_returns handler event (w.holding (m.lockFor event.lockKey) expires) with
        ⟨result, left, ran⟩
      have exclusive := play_exclusively_of_idle idle clock lasting after only ran
      have frame := play_onRockets only (w.holding (m.lockFor event.lockKey) expires)
      have held : (w.holding (m.lockFor event.lockKey) expires).rockets = w.rockets := rfl
      rcases (handler.about_handle event).play_congr_rockets held with ⟨outcome, rockets⟩
      rw [ran] at frame outcome rockets
      have plain : play (handler.handle event) w =
          (.returned result, (play (handler.handle event) w).2) := Prod.ext outcome.symm rfl
      rw [dispatchExclusively_of_some m found, dispatch_of_some found,
        play_bind_of_returned exclusive, play_bind_of_returned plain]
      have claims : left.claims = w.claims := by
        dsimp only at frame
        rw [frame]
        rfl
      exact ⟨_, _, rfl, rfl, rockets, claims, .without _ w.locks⟩

end World

/-! ## One delivery -/

namespace Processor

def unclaimed (eventId : String) : Outcome (Except ClaimFault Bool) → Except DeliveryFault String
  | .panicked message => .error (.aborted eventId (Script.abortReason message))
  | .returned (.error cause) => .error (.notClaimed eventId cause)
  | .returned (.ok _) => .error (.duplicate eventId)

def leftover (eventId : String) (result : Except BusFault Unit) (claims : ClaimRecords) :
    ClaimRecords :=
  if World.succeeded result then claims else claims.forget eventId

end Processor

namespace World

variable {now : Instant} {handlers : List (String × EventHandler)} {p : Processor}
  {event : RocketEvent} {w : World Leases ClaimRecords Fleet}

/--
How the delivery of an event is completed, by what its claim and its dispatch come to: it is not
claimed, or it is dispatched as it would be without a lock.
-/
inductive Completed (p : Processor) (event : RocketEvent) (now : Instant)
    (w : World Leases ClaimRecords Fleet) :
    Except DeliveryFault String → World Leases ClaimRecords Fleet → Prop where
  | unclaimed {outcome : Outcome (Except ClaimFault Bool)}
      {w' : World Leases ClaimRecords Fleet} :
      (w.claims.claim event.eventId p.retention now).1 = outcome → outcome ≠ .returned (.ok true) →
      w'.claims = (w.claims.claim event.eventId p.retention now).2 → w'.rockets = w.rockets →
      Completed p event now w (Processor.unclaimed event.eventId outcome) w'
  | dispatched {result : Except BusFault Unit} {w' : World Leases ClaimRecords Fleet} :
      (w.claims.claim event.eventId p.retention now).1 = .returned (.ok true) →
      (play (p.bus.dispatch event) w).1 = .returned result →
      w'.claims = Processor.leftover event.eventId result
        (w.claims.claim event.eventId p.retention now).2 →
      w'.rockets = (play (p.bus.dispatch event) w).2.rockets →
      Completed p event now w (Processor.told event.eventId result) w'

theorem play_dispatchClaimed_of_idle (event : RocketEvent) (bus : p.bus = .ofHandlers handlers)
    (lasting : p.mutex.Lasting now) (idle : w.locks.Idle now) (clock : w.clock = .standing now) :
    ∃ result w', play (p.dispatchClaimed event) w =
        (.returned (Processor.told event.eventId result), w') ∧
      (play (p.bus.dispatch event) w).1 = .returned result ∧
      w'.rockets = (play (p.bus.dispatch event) w).2.rockets ∧
      w'.claims = Processor.leftover event.eventId result w.claims ∧ w'.locks.Within w.locks := by
  rcases dispatchExclusively_of_idle handlers event lasting idle clock with
    ⟨result, w', played, plain, rockets, claims, idle'⟩
  rw [p.dispatchClaimed_eq, bus, play_bind_of_returned played]
  by_cases succeeds : succeeded result = true
  · rw [if_pos succeeds]
    refine ⟨result, w', rfl, plain, rockets, ?_, idle'⟩
    rw [Processor.leftover, if_pos succeeds, claims]
  · rw [if_neg succeeds]
    refine ⟨result, _, rfl, plain, rockets, ?_, idle'⟩
    rw [Processor.leftover, if_neg succeeds, ← claims]
    rfl

theorem completed_of_claimed (bus : p.bus = .ofHandlers handlers) (lasting : p.mutex.Lasting now)
    (idle : w.locks.Idle now) (clock : w.clock = .standing now)
    (claimed : (w.claims.claim event.eventId p.retention now).1 = .returned (.ok true)) :
    ∃ result w', play (p.dispatchClaimed event)
        (w.claimAnswered (w.claims.claim event.eventId p.retention now).2) =
          (.returned result, w') ∧
      Completed p event now w result w' ∧ w'.locks.Within w.locks := by
  generalize answered : w.claimAnswered (w.claims.claim event.eventId p.retention now).2 = v
  have locks : v.locks = w.locks := by
    rw [← answered]
    rfl
  have idle' : v.locks.Idle now := by
    rw [locks]
    exact idle
  have still : v.clock = .standing now := by
    rw [← answered]
    show w.clock.tick = _
    rw [clock]
    rfl
  have same : v.rockets = w.rockets := by
    rw [← answered]
    rfl
  rcases play_dispatchClaimed_of_idle event bus lasting idle' still with
    ⟨result, w', played, plain, rockets, claims, left⟩
  have about := EventBus.about_dispatch handlers event
  rw [← bus] at about
  rcases about.play_congr_rockets same with ⟨outcome, rockets'⟩
  rw [locks] at left
  refine ⟨_, w', played, .dispatched claimed (outcome.symm.trans plain) ?_ ?_, left⟩
  · rw [claims, ← answered]
    rfl
  · rw [rockets, rockets']

/-- A delivery of an event is completed, and no new lease is left of it. -/
theorem process_completed (bus : p.bus = .ofHandlers handlers) (lasting : p.mutex.Lasting now)
    {body : Bytes} (resolved : RocketEvent.ofBody body = .ok event) (idle : w.locks.Idle now)
    (clock : w.clock = .standing now) :
    ∃ result w', play (p.process body) w = (.returned result, w') ∧
      Completed p event now w result w' ∧ w'.locks.Within w.locks := by
  have reads : w.clock.read = .returned now := by
    rw [clock]
    rfl
  have claimed := play_claim reads event.eventId p.retention
  cases outcome : (w.claims.claim event.eventId p.retention now).1 with
  | panicked message =>
      rw [outcome] at claimed
      exact ⟨_, _, play_process resolved (play_bind_of_panicked claimed),
        .unclaimed outcome (by simp) rfl rfl, .refl w.locks⟩
  | returned answer =>
      rw [outcome] at claimed
      cases answer with
      | error cause =>
          exact ⟨_, _, play_process resolved (play_bind_of_returned claimed),
            .unclaimed outcome (by simp) rfl rfl, .refl w.locks⟩
      | ok granted =>
          cases granted with
          | false =>
              exact ⟨_, _, play_process resolved (play_bind_of_returned claimed),
                .unclaimed outcome (by simp) rfl rfl, .refl w.locks⟩
          | true =>
              rcases completed_of_claimed bus lasting idle clock outcome with
                ⟨result, w', played, completed, left⟩
              exact ⟨_, w', play_process resolved ((play_bind_of_returned claimed).trans played),
                completed, left⟩

end World
end MissionControl
