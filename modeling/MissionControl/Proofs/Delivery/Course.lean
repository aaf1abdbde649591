import MissionControl.Delivery.Processing
import MissionControl.Proofs.Claim.Liveness
import MissionControl.Proofs.Delivery.Dispatching

/-!
# The course of a delivery

A delivery that is processed over a fleet and claim records takes one of four courses: it claims
nothing, it meets a claim, it is applied and keeps its claim, or it fails and drops it.  Each course
says what the delivery comes to and what it leaves of the records and the claims.
-/

namespace MissionControl

def Moment.claimReading? {L C R : Type} (m : Moment L C R) : Option (Outcome Instant) :=
  match m.call with
  | .claim _ _ => some m.world.clock.read
  | _ => none

theorem Moment.claimReading?_eq_none {L C R : Type} {m : Moment L C R}
    (h : m.call.isClaim = false) : m.claimReading? = none := by
  rcases m with ⟨w, c⟩
  cases c with
  | claim eventId retention =>
      cases h
  | _ =>
      rfl

namespace Processor

/-- Whether the result of a delivery tells that its event was applied. -/
def isApplied : Except DeliveryFault String → Bool
  | .ok _ => true
  | .error (.notDispatched _ cause) => cause.followsSuccess
  | .error _ => false

def told (eventId : String) : Except BusFault Unit → Except DeliveryFault String
  | .ok () => .ok eventId
  | .error cause => .error (.notDispatched eventId cause)

def concluded (eventId : String) :
    Outcome (Except DeliveryFault String) → Except DeliveryFault String
  | .returned result => result
  | .panicked message => .error (.aborted eventId (Script.abortReason message))

theorem isApplied_told (eventId : String) (result : Except BusFault Unit) :
    isApplied (told eventId result) = World.succeeded result := by
  cases result <;> rfl

variable (p : Processor) (event : RocketEvent)

theorem dispatchClaimed_eq :
    p.dispatchClaimed event =
      (p.bus.dispatchExclusively p.mutex event).bind fun result =>
        if World.succeeded result then
          .done (told event.eventId result)
        else
          (Script.perform (.forget event.eventId)).bind fun _ =>
            .done (told event.eventId result) := by
  unfold dispatchClaimed
  apply congrArg (Script.bind _)
  funext result
  cases result with
  | ok value =>
      rfl
  | error cause =>
      cases after : cause.followsSuccess <;> simp [World.succeeded, after] <;> rfl

def afterClaim : Except ClaimFault Bool → Script (Except DeliveryFault String)
  | .error cause => .done (.error (.notClaimed event.eventId cause))
  | .ok false => .done (.error (.duplicate event.eventId))
  | .ok true => p.dispatchClaimed event

theorem handleOnce_eq :
    p.handleOnce event =
      (Script.perform (.claim event.eventId p.retention)).bind (p.afterClaim event) := by
  unfold handleOnce
  apply congrArg (Script.bind _)
  funext answer
  cases answer with
  | error cause =>
      rfl
  | ok granted =>
      cases granted <;> rfl

theorem process_of_ok {body : Bytes} (resolved : RocketEvent.ofBody body = .ok event) :
    p.process body = (p.handleOnce event).task.bind fun outcome =>
      .done (concluded event.eventId outcome) := by
  unfold process
  rw [resolved]
  apply congrArg (Script.bind _)
  funext outcome
  cases outcome <;> rfl

theorem only_dispatchClaimed {allowed : Call → Prop} {p : Processor}
    {handlers : List (String × EventHandler)} (bus : p.bus = .ofHandlers handlers)
    (event : RocketEvent) (rockets : ∀ c : Call, c.isOnRockets = true → allowed c)
    (coordination : ∀ c : Call, c.isCoordination = true → allowed c)
    (forget : allowed (.forget event.eventId)) :
    (p.dispatchClaimed event).Only allowed := by
  rw [p.dispatchClaimed_eq, bus]
  refine Script.Only.bind ?_ fun result => ?_
  · exact World.only_dispatchExclusively handlers p.mutex event rockets coordination
  · split
    · trivial
    · exact (Script.Only.perform forget).bind fun _ => trivial

theorem only_process {p : Processor} {handlers : List (String × EventHandler)}
    (bus : p.bus = .ofHandlers handlers) (body : Bytes) :
    (p.process body).Only fun c => c.movesClock = false := by
  cases resolved : RocketEvent.ofBody body with
  | error cause =>
      unfold process
      rw [resolved]
      trivial
  | ok event =>
      rw [p.process_of_ok event resolved, p.handleOnce_eq]
      refine Script.Only.bind ?_ fun _ => trivial
      refine Script.Only.task ?_ rfl
      refine Script.Only.bind ?_ fun answer => ?_
      · exact Script.Only.perform rfl
      · cases answer with
        | error cause =>
            trivial
        | ok granted =>
            cases granted with
            | false =>
                trivial
            | true =>
                exact only_dispatchClaimed bus event (fun _ => Call.movesClock_of_isOnRockets)
                  (fun _ => Call.movesClock_of_isCoordination) rfl

end Processor

namespace World

variable {L : Type} [LockStore L]

/-! ## After the claim -/

/-- What a delivery that was applied comes to. -/
def ToldApplied (eventId : String) (result : Except DeliveryFault String) : Prop :=
  result = .ok eventId ∨
    ∃ cause : BusFault, cause.followsSuccess = true ∧
      result = .error (.notDispatched eventId cause)

theorem ToldApplied.isApplied {eventId : String} {result : Except DeliveryFault String}
    (h : ToldApplied eventId result) : Processor.isApplied result = true := by
  rcases h with rfl | ⟨cause, succeeds, rfl⟩
  · rfl
  · exact succeeds

theorem toldApplied_of_succeeded {result : Except BusFault Unit} (eventId : String)
    (h : succeeded result = true) : ToldApplied eventId (Processor.told eventId result) := by
  cases result with
  | ok value =>
      exact .inl rfl
  | error cause =>
      exact .inr ⟨cause, h, rfl⟩

/-- A claimed event is applied and keeps its claim, or drops it and leaves the records. -/
theorem dispatchClaimed_course {p : Processor} {handlers : List (String × EventHandler)}
    (bus : p.bus = .ofHandlers handlers) {event : RocketEvent} {w : World L ClaimRecords Fleet}
    (calm : LocksAnswer (p.dispatchClaimed event) w) :
    ∃ result w', play (p.dispatchClaimed event) w = (.returned result, w') ∧
      ((ToldApplied event.eventId result ∧ w'.claims = w.claims ∧
          ∃ handler before after held,
            HandledOnce p.bus event (p.dispatchClaimed event) w handler before after held) ∨
        (Processor.isApplied result = false ∧ w'.claims = w.claims.forget event.eventId ∧
          w'.rockets = w.rockets)) := by
  rw [Processor.dispatchClaimed_eq] at calm ⊢
  have asked := calm.first
  rw [bus] at calm asked ⊢
  rcases dispatchExclusively_course asked with ⟨result, w', played, claims, course⟩
  rw [play_bind_of_returned played]
  rcases course with ⟨succeeds, handler, before, after, held, once⟩ | ⟨fails, rockets⟩
  · rw [if_pos succeeds]
    refine ⟨_, w', rfl, .inl ⟨toldApplied_of_succeeded _ succeeds, claims, ?_⟩⟩
    exact ⟨handler, before, after, held, once.ending played (if_pos succeeds)⟩
  · rw [if_neg (by rw [fails]; exact Bool.false_ne_true)]
    refine ⟨_, _, rfl, .inr ⟨?_, ?_, ?_⟩⟩
    · rw [Processor.isApplied_told]
      exact fails
    · show w'.claims.forget event.eventId = _
      rw [claims]
    · exact rockets

/-! ## The four courses -/

/--
A delivery whose event was applied: its handler ran once, after the claim, and succeeded, and the
claim is kept until its expiry.
-/
structure Applied (p : Processor) (body : Bytes) (now : Instant) (w : World L ClaimRecords Fleet)
    (result : Except DeliveryFault String) (w' : World L ClaimRecords Fleet)
    (event : RocketEvent) (expiry : Instant) : Prop where
  resolved : RocketEvent.ofBody body = .ok event
  told : ToldApplied event.eventId result
  fresh : w.claims.isLive event.eventId now = false
  expires : now.after? p.retention = some expiry
  claims : w'.claims = (w.claims.sweep now).record event.eventId expiry
  /-- The one claim that is made is made now. -/
  reading : (moments (p.process body) w).filterMap Moment.claimReading? = [.returned now]
  once : ∃ handler before after held,
    HandledOnce p.bus event (p.process body) w handler before after held ∧
      ∃ x ∈ before, x.call = .claim event.eventId p.retention ∧
        x.world.clock.read = .returned now

/-- What becomes of a delivery that is processed when the clock shows `now`. -/
inductive Course (p : Processor) (body : Bytes) (now : Instant) (w : World L ClaimRecords Fleet)
    (result : Except DeliveryFault String) (w' : World L ClaimRecords Fleet) : Prop where
  | unclaimed : Processor.isApplied result = false → w'.claims = w.claims →
      w'.rockets = w.rockets → Course p body now w result w'
  | refused : Processor.isApplied result = false → w'.claims = w.claims.sweep now →
      w'.rockets = w.rockets → Course p body now w result w'
  | dropped (eventId : String) (expiry : Instant) : Processor.isApplied result = false →
      w.claims.isLive eventId now = false →
      w'.claims = ((w.claims.sweep now).record eventId expiry).forget eventId →
      w'.rockets = w.rockets → Course p body now w result w'
  | applied (event : RocketEvent) (expiry : Instant) :
      Applied p body now w result w' event expiry → Course p body now w result w'

section Claiming

variable {R : Type} [RocketStore R]

def claimAnswered (w : World L ClaimRecords R) (records : ClaimRecords) :
    World L ClaimRecords R :=
  { w.tick with claims := records }

theorem serve_claim {now : Instant} {w : World L ClaimRecords R}
    (reads : w.clock.read = .returned now) (eventId : String) (retention : Duration) :
    w.serve (.claim eventId retention) =
      { reply := (w.claims.claim eventId retention now).1
        world := w.claimAnswered (w.claims.claim eventId retention now).2 } := by
  simp only [serve, claimAnswered, reads]
  rfl

theorem play_claim {now : Instant} {w : World L ClaimRecords R}
    (reads : w.clock.read = .returned now) (eventId : String) (retention : Duration) :
    play (Script.perform (.claim eventId retention)) w =
      ((w.claims.claim eventId retention now).1,
        w.claimAnswered (w.claims.claim eventId retention now).2) := by
  rw [Script.perform, play_call, serve_claim reads]
  cases (w.claims.claim eventId retention now).1 <;> rfl

theorem play_process {p : Processor} {body : Bytes} {event : RocketEvent}
    (resolved : RocketEvent.ofBody body = .ok event) {w w' : World L ClaimRecords R}
    {outcome : Outcome (Except DeliveryFault String)}
    (h : play ((Script.perform (.claim event.eventId p.retention)).bind (p.afterClaim event)) w =
      (outcome, w')) :
    play (p.process body) w = (.returned (Processor.concluded event.eventId outcome), w') := by
  rw [← p.handleOnce_eq] at h
  rw [p.process_of_ok event resolved, play_bind_of_returned (play_task _ w), h, play_done]

theorem moments_process {p : Processor} {body : Bytes} {event : RocketEvent}
    (resolved : RocketEvent.ofBody body = .ok event) {w v : World L ClaimRecords R}
    (claimed : play (Script.perform (.claim event.eventId p.retention)) w =
      (.returned (.ok true), v)) :
    moments (p.process body) w =
      [⟨w, .pause 0⟩, ⟨w, .claim event.eventId p.retention⟩] ++
        moments (p.dispatchClaimed event) v ++
        [⟨(play (p.dispatchClaimed event) v).2, .pause 0⟩] := by
  rw [p.process_of_ok event resolved, moments_bind_of_returned (play_task _ w), moments_task,
    moments_done, List.append_nil, p.handleOnce_eq, play_bind_of_returned claimed,
    moments_bind_of_returned claimed, moments_perform]
  rfl

end Claiming

theorem claimReadings_process {p : Processor} {handlers : List (String × EventHandler)}
    (bus : p.bus = .ofHandlers handlers) {body : Bytes} {event : RocketEvent}
    (resolved : RocketEvent.ofBody body = .ok event) {w v : World L ClaimRecords Fleet}
    (claimed : play (Script.perform (.claim event.eventId p.retention)) w =
      (.returned (.ok true), v)) :
    (moments (p.process body) w).filterMap Moment.claimReading? = [w.clock.read] := by
  have only := Processor.only_dispatchClaimed bus event (fun _ => Call.isClaim_of_isOnRockets)
    (fun _ => Call.isClaim_of_isCoordination) rfl
  have none : (moments (p.dispatchClaimed event) v).filterMap Moment.claimReading? = [] := by
    rw [List.filterMap_eq_nil_iff]
    intro x mem
    exact Moment.claimReading?_eq_none (allowed_of_mem_moments only mem)
  rw [moments_process resolved claimed, List.filterMap_append, List.filterMap_append, none]
  rfl

theorem process_course {p : Processor} {handlers : List (String × EventHandler)}
    (bus : p.bus = .ofHandlers handlers) {body : Bytes} {now : Instant}
    {w : World L ClaimRecords Fleet} (reads : w.clock.read = .returned now)
    (calm : LocksAnswer (p.process body) w) :
    ∃ result w', play (p.process body) w = (.returned result, w') ∧
      Course p body now w result w' := by
  cases resolved : RocketEvent.ofBody body with
  | error cause =>
      refine ⟨.error (.unresolved cause), w, ?_, .unclaimed rfl rfl rfl⟩
      unfold Processor.process
      rw [resolved]
      rfl
  | ok event =>
      have claimed := play_claim reads event.eventId p.retention
      have course := ClaimRecords.claimed_claim event.eventId p.retention now w.claims
      rw [p.process_of_ok event resolved] at calm
      have calm := calm.first.of_task
      rw [p.handleOnce_eq] at calm
      generalize (w.claims.claim event.eventId p.retention now).1 = outcome at claimed course
      generalize (w.claims.claim event.eventId p.retention now).2 = records at claimed course
      cases course with
      | failed none =>
          cases outcome with
          | panicked message =>
              exact ⟨_, _, play_process resolved (play_bind_of_panicked claimed),
                .unclaimed rfl rfl rfl⟩
          | returned answer =>
              cases answer with
              | error cause =>
                  exact ⟨_, _, play_process resolved (play_bind_of_returned claimed),
                    .unclaimed rfl rfl rfl⟩
              | ok granted =>
                  exact absurd rfl (none granted)
      | refused live =>
          exact ⟨_, _, play_process resolved (play_bind_of_returned claimed), .refused rfl rfl rfl⟩
      | granted free after =>
          rcases dispatchClaimed_course bus (calm.second claimed) with ⟨result, w', played, course⟩
          have ended := play_process resolved ((play_bind_of_returned claimed).trans played)
          refine ⟨result, w', ended, ?_⟩
          rcases course with ⟨told, claims, handler, before, later, held, once⟩ |
            ⟨fails, claims, rockets⟩
          · refine .applied event _ ⟨resolved, told, free, after, claims,
              reads ▸ claimReadings_process bus resolved claimed, handler, _, _, held,
              once.within (moments_process resolved claimed) ?_ ?_ rfl ?_,
              ⟨w, .claim event.eventId p.retention⟩, ?_, rfl, reads⟩
            · simp [Call.isOnRockets]
            · simp [Call.isOnRockets]
            · rw [ended, played]
            · simp
          · exact .dropped event.eventId _ fails free claims rockets

end World

end MissionControl
