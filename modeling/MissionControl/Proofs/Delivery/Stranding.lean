import MissionControl.Proofs.Delivery.Invocation

/-!
# Stranded claims

A delivery that fails before its handler is invoked drops its claim, so that the event can be
delivered once more.  A lock store that panics while the lock is asked for or given up strands the
claim: the delivery is aborted between claiming and dispatching, and the event stays claimed until
the claim expires.
-/

namespace MissionControl
namespace World

variable {L R : Type} [LockStore L] [RocketStore R] {p : Processor} {event : RocketEvent}
  {v : World L ClaimRecords R}

/-- A claim whose event is not handled is dropped, unless the lock store breaks down. -/
theorem dispatchClaimed_of_notBegun
    (unbegun : ∀ h, p.bus.handler? event.kind.type.name = some h →
      NotBegun p.mutex event.lockKey (h event) v) :
    (Calm (moments (p.dispatchClaimed event) v) ∧
        (play (p.dispatchClaimed event) v).2.claims = v.claims.forget event.eventId) ∨
      (¬Calm (moments (p.dispatchClaimed event) v) ∧
        (∃ message, (play (p.dispatchClaimed event) v).1 = .panicked message) ∧
        (play (p.dispatchClaimed event) v).2.claims = v.claims) := by
  have forgetting (u : World L ClaimRecords R) :
      Calm [(⟨u, .forget event.eventId⟩ : Moment L ClaimRecords R)] := calm_singleton rfl
  cases found : p.bus.handler? event.kind.type.name with
  | none =>
      have missing : succeeded (.error (.noHandler event.kind.type.name)) = false := rfl
      have dropped := play_afterDispatch event missing v
      rw [p.dispatchClaimed_of_none event found, dropped.1, dropped.2]
      exact .inl ⟨forgetting v, rfl⟩
  | some h =>
      have claims := (unbegun h found).claims
      have ended := exclusively_ended p.mutex event.lockKey (h event) v
      rw [p.dispatchClaimed_of_some event found]
      cases played : play (p.mutex.exclusively event.lockKey (h event)) v with
      | mk outcome next =>
          rw [played] at ended claims
          cases ended with
          | @broken message _ panics =>
              rw [moments_bind, play_bind_of_panicked played, played, List.append_nil]
              exact .inr ⟨panics, ⟨message, rfl⟩, claims⟩
          | @keptOut cause _ calm =>
              have lost : succeeded (dispatched event.kind.type.name
                  (.error (.notAcquired (p.mutex.lockFor event.lockKey) cause))) = false := rfl
              have dropped := play_afterDispatch event lost next
              rw [moments_bind_of_returned played, play_bind_of_returned played, calm_append]
              have forgot : (play (Processor.afterDispatch event (dispatched event.kind.type.name
                  (.error (.notAcquired (p.mutex.lockFor event.lockKey) cause)))) next).2.claims =
                    v.claims.forget event.eventId := by
                rw [← claims]
                exact congrArg (fun ending => ending.2.claims) dropped.1
              exact .inl ⟨⟨calm, dropped.2.symm ▸ forgetting next⟩, forgot⟩
          | settled begun _ =>
              exact absurd (unbegun h found) begun.not_notBegun
          | snapped begun _ =>
              exact absurd (unbegun h found) begun.not_notBegun

/--
Where a delivery fails and no handler was invoked for its event, all live claims are as they were,
unless the lock store broke down: then the event, which was not claimed before, stays claimed for
the whole retention.
-/
theorem unhandled_unclaimed_unless_broken (p : Processor) (body : Bytes)
    (w : World L ClaimRecords R) (now : Instant) (cause : DeliveryFault)
    (reads : w.clock.read = .returned now)
    (failed : (play (p.process body) w).1 = .returned (.error cause))
    (unhandled : Unhandled p body w) :
    (LocksAnswer (p.process body) w ∧ ∀ later, now ≤ later → ∀ eventId,
        (play (p.process body) w).2.claims.liveAt later eventId =
          w.claims.liveAt later eventId) ∨
      (¬LocksAnswer (p.process body) w ∧ ∃ event message expiry,
        RocketEvent.ofBody body = .ok event ∧
          cause = .aborted event.eventId (Script.abortReason message) ∧
          w.claims.isLive event.eventId now = false ∧
          now.after? p.retention = some expiry ∧
          (play (p.process body) w).2.claims.expiries.get? event.eventId = some expiry) := by
  cases resolved : RocketEvent.ofBody body with
  | error flaw =>
      have unread : p.process body = .done (.error (.unresolved flaw)) := by
        unfold Processor.process
        rw [resolved]
        rfl
      rw [unread]
      exact .inl ⟨calm_nil, fun later le eventId => rfl⟩
  | ok event =>
      have claimed := ClaimRecords.claimed_claim event.eventId p.retention now w.claims
      have asked := play_claim reads event.eventId p.retention
      generalize (w.claims.claim event.eventId p.retention now).1 = outcome at claimed asked
      generalize (w.claims.claim event.eventId p.retention now).2 = records at claimed asked
      rw [calm_process_iff resolved]
      by_cases granted : outcome = .returned (.ok true)
      · subst granted
        have unbegun (h : Handler RocketEvent Unit) := unhandled.notBegun (h := h) resolved asked
        have handled := handleOnce_claimed asked
        rw [play_handled resolved] at failed ⊢
        rw [handled.1] at failed ⊢
        rw [handled.2, ← List.singleton_append, calm_append, and_iff_right (calm_singleton rfl)]
        rcases dispatchClaimed_of_notBegun unbegun with
          ⟨calm, claims⟩ | ⟨panics, ⟨message, panicked⟩, claims⟩
        · refine .inl ⟨calm, ?_⟩
          intro later le eventId
          rw [claims]
          exact claimed.liveAt_forget le eventId
        · rw [panicked] at failed
          cases failed
          cases claimed with
          | failed none =>
              exact absurd rfl (none true)
          | @granted expiry free after =>
              refine .inr ⟨panics, event, message, expiry, rfl, rfl, free, after, ?_⟩
              rw [claims]
              exact (ClaimRecords.get?_record _ _ _ _).trans (if_pos rfl)
      · have handled := handleOnce_unclaimed asked granted
        rw [play_handled resolved, handled.1, handled.2]
        refine .inl ⟨calm_singleton rfl, ?_⟩
        intro later le eventId
        exact claimed.liveAt granted le eventId

def answeringAcquires (answers : List LockAnswer) (readings : Supply Instant) :
    World AnyLocks ClaimRecords Fleet :=
  { locks := .told { acquires := answers }, claims := .start .epoch, rockets := oneRocket
    clock := .going readings }

def oneAttempt : Processor := ⟨.full .notAfter, { retries := 1 }, .ofSeconds 29⟩

def lockRefused : World AnyLocks ClaimRecords Fleet := answeringAcquires [.no] (.always .epoch)

def lockBroken : World AnyLocks ClaimRecords Fleet :=
  answeringAcquires [.panics, .yes] (.always .epoch)

theorem acceleration_unclaimed_where_lock_is_held :
    Unhandled oneAttempt accelerationBody lockRefused ∧
      ∀ later, Instant.epoch ≤ later → ∀ eventId,
        (play (oneAttempt.process accelerationBody) lockRefused).2.claims.liveAt later eventId =
          none := by
  have script := oneAttempt.process_of_ok acceleration ofBody_accelerationBody
  have failed : (play (oneAttempt.process accelerationBody) lockRefused).1 =
      .returned (.error (.notDispatched acceleration.eventId (.lockFailed "RocketSpeedIncreased"
        (.notAcquired "distributed-sync-mutex:rocket:193270a9-c9cf-404a-8f83-838e71d9ae67"
          .heldByAnother)))) := by
    apply eq_of_fault?
    rw [script]
    decide +kernel
  have unhandled := (unhandled_iff_precedesHandler failed).mpr rfl
  refine ⟨unhandled, ?_⟩
  have calm : LocksAnswer (oneAttempt.process accelerationBody) lockRefused := by
    rw [script]
    unfold LocksAnswer
    decide +kernel
  rcases unhandled_unclaimed_unless_broken oneAttempt accelerationBody lockRefused .epoch _ rfl
    failed unhandled with ⟨_, same⟩ | ⟨panics, _⟩
  · exact same
  · exact absurd calm panics

/-- An event that no handler was invoked for stays claimed and is taken for a duplicate. -/
theorem acceleration_stranded_where_acquire_panics :
    ∃ cause, (play (oneAttempt.process accelerationBody) lockBroken).1 =
        .returned (.error cause) ∧
      (∀ eventId, cause ≠ .duplicate eventId) ∧
      Unhandled oneAttempt accelerationBody lockBroken ∧
      lockBroken.claims.isLive acceleration.eventId .epoch = false ∧
      (play (oneAttempt.process accelerationBody) lockBroken).2.claims.isLive
        acceleration.eventId .epoch = true ∧
      (play (oneAttempt.process accelerationBody)
        (play (oneAttempt.process accelerationBody) lockBroken).2).1 =
          .returned (.error (.duplicate acceleration.eventId)) := by
  have script := oneAttempt.process_of_ok acceleration ofBody_accelerationBody
  have failed : (play (oneAttempt.process accelerationBody) lockBroken).1 =
      .returned (.error (.aborted acceleration.eventId
        "task panicked with message \"lock store blew up\"")) := by
    apply eq_of_fault?
    rw [script]
    decide +kernel
  refine ⟨_, failed, ?_, (unhandled_iff_precedesHandler failed).mpr rfl, ?_, ?_, ?_⟩
  · intro eventId same
    cases same
  · decide +kernel
  · rw [script]
    decide +kernel
  · apply eq_of_fault?
    rw [script]
    decide +kernel

end World
end MissionControl
