import MissionControl.Proofs.Delivery.Solitary
import MissionControl.Proofs.Lock.Debts
import MissionControl.Proofs.Pool.Stages

/-!
# Answers of a service in good order

Where no lease is live and retentions pass, a delivery of an event is a duplicate, is handled, or
is refused for something that its sender can mend.  Delivered again at once, an event that was
handled is a duplicate, and any other is answered as before.
-/

namespace MissionControl

/-! ## Refusals -/

def Refusal.isMendable : Refusal → Bool
  | storeFailed _ => false
  | _ => true

theorem Fleet.isMendable_of_find {fleet : Fleet} {id : RocketId} {cause : Refusal}
    (missing : fleet.find id = .error cause) : cause.isMendable = true := by
  rw [cause_of_find missing]
  rfl

namespace World

variable {L C : Type} [LockStore L] [ClaimStore C] {w w' : World L C Fleet} {cause : Refusal}

theorem isMendable_of_launch {order : LaunchOrder}
    (failed : play order.carryOut w = (.returned (.error cause), w')) :
    cause.isMendable = true := by
  cases valid : order.validate with
  | error violation =>
      cases (play_launch_of_rejected valid w).symm.trans failed
      rfl
  | ok r =>
      cases known : w.rockets.isKnown r.id with
      | true =>
          cases (play_launch_of_known valid known).symm.trans failed
          rfl
      | false =>
          cases (play_launch_of_unknown valid known).symm.trans failed

theorem isMendable_of_revision {guard : Guard} {order : RevisionOrder}
    (failed : play (order.carryOut guard) w = (.returned (.error cause), w')) :
    cause.isMendable = true := by
  cases valid : order.validate with
  | error violation =>
      cases (play_revision_of_rejected guard valid w).symm.trans failed
      rfl
  | ok checked =>
      rcases checked with ⟨id, changes⟩
      cases found : w.rockets.find id with
      | error refusal =>
          cases (play_revision_of_find guard valid found).symm.trans failed
          exact Fleet.isMendable_of_find found
      | ok r =>
          cases (play_revision_of_find guard valid found).symm.trans failed

theorem isMendable_of_demand {guard : Guard} {event : RocketEvent} {failure : HandlerFault}
    (failed : (EventHandler.ofType guard event.kind.type).demand event = .error failure) :
    ∃ cause : Refusal, failure = .refused cause ∧ cause.isMendable = true := by
  have negative {amount : Int64} {f : Int → EventHandler.Demand}
      (failed : (EventHandler.amountOf amount).map f = .error failure) :
      ∃ cause : Refusal, failure = .refused cause ∧ cause.isMendable = true := by
    unfold EventHandler.amountOf at failed
    split at failed
    · cases failed
      exact ⟨_, rfl, rfl⟩
    · cases failed
  rcases event with ⟨kind, eventId, rocketId, number, time⟩
  cases kind with
  | launched rocketType launchSpeed mission =>
      cases time with
      | none =>
          cases failed
          exact ⟨_, rfl, rfl⟩
      | some time =>
          cases failed
  | exploded reason =>
      cases failed
  | missionChanged newMission =>
      cases failed
  | speedIncreased amount =>
      exact negative failed
  | speedDecreased amount =>
      exact negative failed

/-- Whatever the full bus refuses, the sender can mend it, and nothing is saved. -/
theorem dispatch_full (guard : Guard) (event : RocketEvent) (w : World L C Fleet) :
    (∃ w', play ((EventBus.full guard).dispatch event) w = (.returned (.ok ()), w')) ∨
      ∃ cause : Refusal, cause.isMendable = true ∧
        play ((EventBus.full guard).dispatch event) w =
          (.returned (.error (.handlerFailed event.kind.type.name cause)), w) := by
  rw [dispatch_of_some (EventBus.handler?_full guard event.kind.type)]
  rcases play_handle (.ofType guard event.kind.type) event w with
    ⟨failure, played⟩ | ⟨r, _, played⟩
  · right
    have refused : ∃ cause : Refusal, failure = .refused cause ∧ cause.isMendable = true := by
      unfold EventHandler.handle at played
      cases asked : (EventHandler.ofType guard event.kind.type).demand event with
      | error wrong =>
          rw [asked] at played
          cases played
          exact isMendable_of_demand asked
      | ok demand =>
          rw [asked] at played
          rcases play_carryOut demand w with ⟨cause, failed⟩ | ⟨r, _, carried⟩
          · cases (play_bind_of_returned failed).symm.trans played
            refine ⟨cause, rfl, ?_⟩
            cases demand with
            | launch order =>
                exact isMendable_of_launch failed
            | revision guard order =>
                exact isMendable_of_revision failed
          · cases (play_bind_of_returned carried).symm.trans played
    rcases refused with ⟨cause, rfl, mendable⟩
    refine ⟨cause, mendable, ?_⟩
    rw [play_bind_of_returned played]
    rfl
  · left
    exact ⟨_, play_bind_of_returned played⟩

end World

/-! ## Honest deliveries -/

namespace Processor

variable {p : Processor} {handlers : List (String × EventHandler)}

theorem honest_dispatchExclusively (handlers : List (String × EventHandler)) (m : Mutex)
    (event : RocketEvent) (retention : Duration) :
    ((EventBus.ofHandlers handlers).dispatchExclusively m event).Honest m.expiry retention := by
  cases found : (EventBus.ofHandlers handlers).handler? event.kind.type.name with
  | none =>
      rw [World.dispatchExclusively_of_none m found]
      exact .done _
  | some registered =>
      rcases EventBus.exists_of_handler?_ofHandlers found with ⟨handler, rfl⟩
      rw [World.dispatchExclusively_of_some m found]
      have plain := (handler.only_handle event).mono fun _ => Call.isPlain_of_isOnRockets
      exact (m.honest_exclusively event.lockKey (.of_only plain)).bind fun _ => .done _

theorem honest_process (bus : p.bus = .ofHandlers handlers) (body : Bytes) :
    (p.process body).Honest p.mutex.expiry p.retention := by
  have dispatched (event : RocketEvent) :
      (p.dispatchClaimed event).Honest p.mutex.expiry p.retention := by
    rw [p.dispatchClaimed_eq, bus]
    refine (honest_dispatchExclusively handlers p.mutex event p.retention).bind fun result => ?_
    split
    · exact .done _
    · exact (Script.Honest.perform rfl).bind fun _ => .done _
  cases resolved : RocketEvent.ofBody body with
  | error cause =>
      unfold process
      rw [resolved]
      exact .done _
  | ok event =>
      rw [p.process_of_ok event resolved, p.handleOnce_eq]
      refine (Script.Honest.task ?_).bind fun _ => .done _
      refine .claims fun answer => ?_
      cases answer with
      | error cause =>
          exact .done _
      | ok granted =>
          cases granted with
          | false =>
              exact .done _
          | true =>
              exact dispatched event

end Processor

/-! ## One delivery, and the same again -/

namespace World

variable {guard : Guard} {p : Processor} {event : RocketEvent} {now : Instant}
  {w w' w'' : World Leases ClaimRecords Fleet} {result again : Except DeliveryFault String}

/-- How the delivery of an event is answered, and what it leaves of the rockets and the claims. -/
inductive Answered (p : Processor) (event : RocketEvent) (now : Instant)
    (w : World Leases ClaimRecords Fleet) :
    Except DeliveryFault String → World Leases ClaimRecords Fleet → Prop where
  | duplicate {w' : World Leases ClaimRecords Fleet} :
      w.claims.isLive event.eventId now = true → w'.rockets = w.rockets →
      (∀ eventId later, now ≤ later →
        w'.claims.liveAt later eventId = w.claims.liveAt later eventId) →
      Answered p event now w (.error (.duplicate event.eventId)) w'
  | handled {w' : World Leases ClaimRecords Fleet} :
      w.claims.isLive event.eventId now = false →
      (play (p.bus.dispatch event) w).1 = .returned (.ok ()) →
      w'.claims.isLive event.eventId now = true →
      Answered p event now w (.ok event.eventId) w'
  | refused {cause : Refusal} {w' : World Leases ClaimRecords Fleet} :
      w.claims.isLive event.eventId now = false → cause.isMendable = true →
      (play (p.bus.dispatch event) w).1 =
        .returned (.error (.handlerFailed event.kind.type.name cause)) →
      w'.rockets = w.rockets →
      (∀ eventId later, now ≤ later →
        w'.claims.liveAt later eventId = w.claims.liveAt later eventId) →
      Answered p event now w
        (.error (.notDispatched event.eventId (.handlerFailed event.kind.type.name cause))) w'

theorem Completed.answered (bus : p.bus = .full guard) (passes : p.retention.Passes now)
    (h : Completed p event now w result w') : Answered p event now w result w' := by
  have told := ClaimRecords.claim_of_passes passes event.eventId w.claims
  have claimed := ClaimRecords.claimed_claim event.eventId p.retention now w.claims
  cases h with
  | unclaimed outcome refused claims rockets =>
      rw [outcome] at told claimed
      have kept (eventId : String) (later : Instant) (le : now ≤ later) :
          w'.claims.liveAt later eventId = w.claims.liveAt later eventId := by
        rw [claims]
        exact claimed.liveAt refused le eventId
      subst told
      cases live : w.claims.isLive event.eventId now with
      | true =>
          exact .duplicate live rockets kept
      | false =>
          rw [live] at refused
          exact absurd rfl refused
  | dispatched granted plain claims rockets =>
      rw [granted] at told claimed
      have free : w.claims.isLive event.eventId now = false := by
        cases live : w.claims.isLive event.eventId now with
        | false =>
            rfl
        | true =>
            rw [live] at told
            cases told
      rw [bus] at plain rockets
      rcases dispatch_full guard event w with ⟨v, played⟩ | ⟨cause, mendable, played⟩
      · rw [played] at plain
        cases plain
        refine .handled free (by rw [bus, played]) ?_
        change w'.claims = (w.claims.claim event.eventId p.retention now).2 at claims
        rw [claims]
        generalize (w.claims.claim event.eventId p.retention now).2 = left at claimed ⊢
        cases claimed with
        | failed none =>
            exact absurd rfl (none true)
        | granted _ after =>
            have lasting := Instant.lt_of_after? passes.positive after
            unfold ClaimRecords.isLive
            rw [ClaimRecords.get?_record, if_pos rfl]
            exact decide_eq_true lasting
      · rw [played] at plain rockets
        cases plain
        refine .refused free mendable (by rw [bus, played]) rockets ?_
        intro eventId later le
        change w'.claims = (w.claims.claim event.eventId p.retention now).2.forget event.eventId
          at claims
        rw [claims]
        exact claimed.liveAt_forget le eventId

namespace Answered

theorem isLive_of_liveAt {records left : ClaimRecords} {eventId : String}
    (kept : ∀ eventId later, now ≤ later →
      left.liveAt later eventId = records.liveAt later eventId) :
    left.isLive eventId now = records.isLive eventId now := by
  rw [ClaimRecords.isLive_eq_isSome_liveAt, ClaimRecords.isLive_eq_isSome_liveAt,
    kept eventId now (Instant.le_refl now)]

theorem of_isLive (h : Answered p event now w result w')
    (live : w.claims.isLive event.eventId now = true) :
    result = .error (.duplicate event.eventId) ∧ w'.rockets = w.rockets := by
  cases h with
  | duplicate _ rockets kept =>
      exact ⟨rfl, rockets⟩
  | handled free plain claimed =>
      rw [live] at free
      cases free
  | refused free mendable plain rockets kept =>
      rw [live] at free
      cases free

theorem duplicate_of_ok {eventId : String} (h : Answered p event now w (.ok eventId) w')
    (next : Answered p event now w' again w'') :
    again = .error (.duplicate event.eventId) ∧ w''.rockets = w'.rockets := by
  cases h with
  | handled free plain claimed =>
      exact next.of_isLive claimed

theorem same_of_error {cause : DeliveryFault} (bus : p.bus = .full guard)
    (h : Answered p event now w (.error cause) w') (next : Answered p event now w' again w'') :
    again = .error cause ∧ w'.rockets = w.rockets ∧
      ∀ eventId later, now ≤ later →
        w'.claims.liveAt later eventId = w.claims.liveAt later eventId := by
  cases h with
  | duplicate live rockets kept =>
      have still := (isLive_of_liveAt kept).trans live
      exact ⟨(next.of_isLive still).1, rockets, kept⟩
  | @refused refusal _ free mendable plain rockets kept =>
      have still := (isLive_of_liveAt kept).trans free
      -- the rockets are the same, so the bus refuses the event for the same reason
      have about := EventBus.about_dispatch_full guard event
      rw [← bus] at about
      have outcome := (about.play_congr_rockets rockets).1
      have before := outcome.trans plain
      refine ⟨?_, rockets, kept⟩
      cases next with
      | duplicate live _ _ =>
          rw [live] at still
          cases still
      | handled _ plain' _ =>
          cases plain'.symm.trans before
      | refused _ _ plain' _ _ =>
          cases plain'.symm.trans before
          rfl

end Answered

/-- A delivery of an event is answered, and the next one finds no live lease either. -/
theorem process_answered (bus : p.bus = .full guard) (lasting : p.mutex.Lasting now)
    (passes : p.retention.Passes now) {body : Bytes}
    (resolved : RocketEvent.ofBody body = .ok event) (idle : w.locks.Idle now)
    (clock : w.clock = .standing now) :
    ∃ result w', play (p.process body) w = (.returned result, w') ∧
      Answered p event now w result w' ∧ w'.locks.Idle now ∧ w'.clock = .standing now := by
  rcases process_completed bus lasting resolved idle clock with
    ⟨result, w', played, completed, within⟩
  refine ⟨result, w', played, completed.answered bus passes, within.idle idle, ?_⟩
  have going : w.clock = .going (.always now) := clock
  rcases clock_play (Processor.only_process bus body) going with ⟨taken, still⟩
  rw [played] at still
  exact still

end World
end MissionControl
