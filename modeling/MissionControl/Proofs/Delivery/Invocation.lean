import MissionControl.Proofs.Delivery.Outcome
import MissionControl.Proofs.Lock.Breakdown

/-!
# Invocations of handlers

Whether a handler is invoked for the event of a delivery.  Where none is, the delivery would make
the same calls with any other handlers; where one is, other handlers would make other calls.  A
delivery that fails tells by its failure which of the two it was.
-/

namespace MissionControl

/-! ## Other handlers -/

namespace Register

variable {α β : Type}

def map (f : α → β) (register : Register α) : Register β :=
  ⟨register.entries.map fun entry => (entry.1, f entry.2), by
    rw [List.map_map]
    exact register.single⟩

theorem get?_map (f : α → β) (name : String) (register : Register α) :
    (register.map f).get? name = (register.get? name).map f := by
  show (register.entries.map fun entry => (entry.1, f entry.2)).lookup name =
    (register.entries.lookup name).map f
  induction register.entries with
  | nil =>
      rfl
  | cons entry rest ih =>
      rw [List.map_cons, lookup_cons, lookup_cons, ih]
      by_cases same : name = entry.1 <;> simp [same]

end Register

namespace Processor

variable (p : Processor) (event : RocketEvent)

def withHandlers (f : Handler RocketEvent Unit → Handler RocketEvent Unit) : Processor :=
  { p with bus := ⟨p.bus.handlers.map f⟩ }

theorem handler?_withHandlers (f : Handler RocketEvent Unit → Handler RocketEvent Unit)
    (type : String) :
    (p.withHandlers f).bus.handler? type = (p.bus.handler? type).map f :=
  Register.get?_map f type p.bus.handlers

/-! ## After the claim -/

def afterDispatch (result : Except BusFault Unit) : Script (Except DeliveryFault String) :=
  if World.succeeded result then
    .done (told event.eventId result)
  else
    (Script.perform (.forget event.eventId)).bind fun _ => .done (told event.eventId result)

theorem dispatchClaimed_of_none (missing : p.bus.handler? event.kind.type.name = none) :
    p.dispatchClaimed event = afterDispatch event (.error (.noHandler event.kind.type.name)) := by
  rw [p.dispatchClaimed_eq, World.dispatchExclusively_of_none p.mutex missing]
  rfl

theorem dispatchClaimed_of_some {h : Handler RocketEvent Unit}
    (registered : p.bus.handler? event.kind.type.name = some h) :
    p.dispatchClaimed event = (p.mutex.exclusively event.lockKey (h event)).bind fun result =>
      afterDispatch event (World.dispatched event.kind.type.name result) := by
  rw [p.dispatchClaimed_eq, World.dispatchExclusively_of_some p.mutex registered,
    Script.bind_assoc]
  rfl

end Processor

namespace World

variable {L R : Type} [LockStore L] [RocketStore R] {p : Processor} {body : Bytes}
  {event : RocketEvent} {now : Instant} {w v : World L ClaimRecords R}

theorem play_afterDispatch (event : RocketEvent) {result : Except BusFault Unit}
    (failed : succeeded result = false) (w : World L ClaimRecords R) :
    play (Processor.afterDispatch event result) w =
        (.returned (Processor.told event.eventId result),
          { w with claims := w.claims.forget event.eventId }) ∧
      moments (Processor.afterDispatch event result) w = [⟨w, .forget event.eventId⟩] := by
  unfold Processor.afterDispatch
  rw [if_neg (by rw [failed]; exact Bool.false_ne_true)]
  exact ⟨rfl, rfl⟩

theorem play_handled (resolved : RocketEvent.ofBody body = .ok event) :
    play (p.process body) w =
      (.returned (Processor.concluded event.eventId (play (p.handleOnce event) w).1),
        (play (p.handleOnce event) w).2) := by
  rw [p.process_of_ok event resolved, play_bind_of_returned (play_task _ w), play_done]

theorem moments_handled (resolved : RocketEvent.ofBody body = .ok event) :
    moments (p.process body) w = [⟨w, .pause 0⟩] ++ moments (p.handleOnce event) w ++
      [⟨(play (p.handleOnce event) w).2, .pause 0⟩] := by
  rw [p.process_of_ok event resolved, moments_bind_of_returned (play_task _ w), moments_task,
    moments_done, List.append_nil]
  rfl

theorem calm_process_iff (resolved : RocketEvent.ofBody body = .ok event) :
    LocksAnswer (p.process body) w ↔ Calm (moments (p.handleOnce event) w) := by
  have resting (u : World L ClaimRecords R) : Calm [(⟨u, .pause 0⟩ : Moment L ClaimRecords R)] :=
    calm_singleton rfl
  show Calm (moments (p.process body) w) ↔ _
  rw [moments_handled resolved, calm_append, calm_append, and_iff_right (resting _),
    and_iff_left (resting _)]

theorem handleOnce_unclaimed {outcome : Outcome (Except ClaimFault Bool)}
    (claimed : play (Script.perform (.claim event.eventId p.retention)) w = (outcome, v))
    (refused : outcome ≠ .returned (.ok true)) :
    (play (p.handleOnce event) w).2 = v ∧
      moments (p.handleOnce event) w = [⟨w, .claim event.eventId p.retention⟩] := by
  rw [p.handleOnce_eq, play_bind, moments_bind, claimed, moments_perform]
  cases outcome with
  | panicked message =>
      constructor <;> rfl
  | returned answer =>
      cases answer with
      | error cause =>
          constructor <;> rfl
      | ok granted =>
          cases granted with
          | true =>
              exact absurd rfl refused
          | false =>
              constructor <;> rfl

theorem handleOnce_claimed
    (claimed : play (Script.perform (.claim event.eventId p.retention)) w =
      (.returned (.ok true), v)) :
    play (p.handleOnce event) w = play (p.dispatchClaimed event) v ∧
      moments (p.handleOnce event) w =
        ⟨w, .claim event.eventId p.retention⟩ :: moments (p.dispatchClaimed event) v := by
  rw [p.handleOnce_eq, play_bind_of_returned claimed, moments_bind_of_returned claimed,
    moments_perform]
  constructor <;> rfl

/-! ## Unhandled events -/

/-- No handler is invoked for the event of a body: with any others, the same calls are made. -/
def Unhandled (p : Processor) (body : Bytes) (w : World L ClaimRecords R) : Prop :=
  ∀ f, moments ((p.withHandlers f).process body) w = moments (p.process body) w

theorem moments_process_of_some (resolved : RocketEvent.ofBody body = .ok event)
    (claimed : play (Script.perform (.claim event.eventId p.retention)) w =
      (.returned (.ok true), v)) {h : Handler RocketEvent Unit}
    (registered : p.bus.handler? event.kind.type.name = some h) :
    ∃ later, moments (p.process body) w =
      [⟨w, .pause 0⟩, ⟨w, .claim event.eventId p.retention⟩] ++
        (moments (p.mutex.exclusively event.lockKey (h event)) v ++ later) := by
  rw [moments_process resolved claimed, p.dispatchClaimed_of_some event registered, moments_bind]
  simp only [List.append_assoc]
  exact ⟨_, rfl⟩

theorem Begun.not_unhandled {h : Handler RocketEvent Unit} {held : World L ClaimRecords R}
    {before after : List (Moment L ClaimRecords R)}
    (begun : Begun p.mutex event.lockKey (h event) v before after held)
    (resolved : RocketEvent.ofBody body = .ok event)
    (claimed : play (Script.perform (.claim event.eventId p.retention)) w =
      (.returned (.ok true), v))
    (registered : p.bus.handler? event.kind.type.name = some h) : ¬Unhandled p body w := by
  intro unhandled
  -- Handlers that make different calls would be told apart by the call made in `held`.
  have asking (c : Call) : ∃ later, moments (p.process body) w =
      [⟨w, .pause 0⟩, ⟨w, .claim event.eventId p.retention⟩] ++
        (before ++ ⟨held, c⟩ :: later) := by
    have other : (p.withHandlers fun _ _ => probe c).bus.handler? event.kind.type.name =
        some fun _ => probe c := by
      rw [p.handler?_withHandlers, registered]
      rfl
    rcases moments_process_of_some (p := p.withHandlers fun _ _ => probe c) resolved claimed
      other with ⟨rest, met⟩
    rcases begun.prior (probe c) with ⟨later, split⟩
    refine ⟨later ++ rest, ?_⟩
    rw [← unhandled, met]
    show _ ++ (moments (p.mutex.exclusively event.lockKey (probe c)) v ++ rest) = _
    rw [split, moments_probe, List.append_assoc, List.append_assoc]
    rfl
  rcases asking (.listRockets default) with ⟨later, listing⟩
  rcases asking .draw with ⟨later', drawing⟩
  rw [listing] at drawing
  have here := List.append_cancel_left (List.append_cancel_left drawing)
  cases (List.cons.inj here).1

theorem Unhandled.notBegun (unhandled : Unhandled p body w)
    (resolved : RocketEvent.ofBody body = .ok event)
    (claimed : play (Script.perform (.claim event.eventId p.retention)) w =
      (.returned (.ok true), v)) {h : Handler RocketEvent Unit}
    (registered : p.bus.handler? event.kind.type.name = some h) :
    NotBegun p.mutex event.lockKey (h event) v := by
  rcases notBegun_or_begun p.mutex event.lockKey (h event) v with
    unbegun | ⟨before, after, held, begun⟩
  · exact unbegun
  · exact absurd unhandled (begun.not_unhandled resolved claimed registered)

theorem unhandled_of_notBegun (resolved : RocketEvent.ofBody body = .ok event)
    (claimed : play (Script.perform (.claim event.eventId p.retention)) w =
      (.returned (.ok true), v)) {h : Handler RocketEvent Unit}
    (registered : p.bus.handler? event.kind.type.name = some h)
    (unbegun : NotBegun p.mutex event.lockKey (h event) v) : Unhandled p body w := by
  intro f
  have other : (p.withHandlers f).bus.handler? event.kind.type.name = some (f h) := by
    rw [p.handler?_withHandlers, registered]
    rfl
  have dispatched : moments ((p.withHandlers f).dispatchClaimed event) v =
        moments (p.dispatchClaimed event) v ∧
      play ((p.withHandlers f).dispatchClaimed event) v = play (p.dispatchClaimed event) v := by
    rcases unbegun.unrun (f h event) with ⟨met, played⟩
    rw [Processor.dispatchClaimed_of_some _ _ other, p.dispatchClaimed_of_some event registered,
      moments_bind, moments_bind, play_bind, play_bind, ← met, ← played]
    constructor <;> rfl
  have same : play (Script.perform (.claim event.eventId (p.withHandlers f).retention)) w =
      (.returned (.ok true), v) := claimed
  rw [moments_process resolved same, moments_process resolved claimed, dispatched.1, dispatched.2]
  rfl

theorem unhandled_of_unclaimed (resolved : RocketEvent.ofBody body = .ok event)
    {outcome : Outcome (Except ClaimFault Bool)}
    (claimed : play (Script.perform (.claim event.eventId p.retention)) w = (outcome, v))
    (refused : outcome ≠ .returned (.ok true)) : Unhandled p body w := by
  intro f
  have same : play (Script.perform (.claim event.eventId (p.withHandlers f).retention)) w =
      (outcome, v) := claimed
  rw [moments_handled resolved, moments_handled resolved, (handleOnce_unclaimed same refused).1,
    (handleOnce_unclaimed same refused).2, (handleOnce_unclaimed claimed refused).1,
    (handleOnce_unclaimed claimed refused).2]
  rfl

theorem unhandled_of_none (resolved : RocketEvent.ofBody body = .ok event)
    (claimed : play (Script.perform (.claim event.eventId p.retention)) w =
      (.returned (.ok true), v))
    (missing : p.bus.handler? event.kind.type.name = none) : Unhandled p body w := by
  intro f
  have same : play (Script.perform (.claim event.eventId (p.withHandlers f).retention)) w =
      (.returned (.ok true), v) := claimed
  have none : (p.withHandlers f).bus.handler? event.kind.type.name = none := by
    rw [p.handler?_withHandlers, missing]
    rfl
  rw [moments_process resolved same, moments_process resolved claimed,
    Processor.dispatchClaimed_of_none _ _ none, p.dispatchClaimed_of_none event missing]
  rfl

end World

/-! ## What failures tell -/

/-- Whether the procedure under the lock was not begun. -/
def MutexFault.precedesProcedure : MutexFault → Bool
  | notAcquired _ _ => true
  | _ => false

/-- Whether the handler was not invoked. -/
def BusFault.precedesHandler : BusFault → Bool
  | handlerFailed _ _ => false
  | wrongHandler _ => false
  | lockFailed _ cause => cause.precedesProcedure
  | _ => true

def DeliveryFault.precedesHandler : DeliveryFault → Bool
  | notDispatched _ cause => cause.precedesHandler
  | _ => true

namespace World

variable {L R : Type} [LockStore L] [RocketStore R] {p : Processor} {body : Bytes}
  {event : RocketEvent} {now : Instant} {w v : World L ClaimRecords R}

theorem precedesHandler_unclaimed {outcome : Outcome (Except ClaimFault Bool)}
    {fault : DeliveryFault}
    (claimed : play (Script.perform (.claim event.eventId p.retention)) w = (outcome, v))
    (refused : outcome ≠ .returned (.ok true))
    (failed : Processor.concluded event.eventId (play (p.handleOnce event) w).1 =
      .error fault) : fault.precedesHandler = true := by
  rw [p.handleOnce_eq, play_bind, claimed] at failed
  cases outcome with
  | panicked message =>
      cases failed
      rfl
  | returned answer =>
      cases answer with
      | error cause =>
          cases failed
          rfl
      | ok granted =>
          cases granted with
          | true =>
              exact absurd rfl refused
          | false =>
              cases failed
              rfl

theorem play_afterDispatch_fst (result : Except BusFault Unit) (w : World L ClaimRecords R) :
    (play (Processor.afterDispatch event result) w).1 =
      .returned (Processor.told event.eventId result) := by
  unfold Processor.afterDispatch
  split <;> rfl

theorem precedesHandler_settle {type name : String}
    {outcome : Outcome (Except HandlerFault Unit)} {released : Except LockFault Unit}
    {fault : BusFault}
    (failed : dispatched type (Mutex.settle name outcome released) = .error fault) :
    fault.precedesHandler = false := by
  cases released with
  | error cause =>
      cases failed
      rfl
  | ok back =>
      cases outcome with
      | panicked message =>
          cases failed
          rfl
      | returned result =>
          cases result with
          | ok value =>
              cases failed
          | error refusal =>
              cases refusal <;> cases failed <;> rfl

theorem told_eq_error {eventId : String} {result : Except BusFault Unit} {fault : DeliveryFault}
    (h : Processor.told eventId result = .error fault) :
    ∃ cause, result = .error cause ∧ fault = .notDispatched eventId cause := by
  cases result with
  | ok value =>
      cases h
  | error cause =>
      cases h
      exact ⟨cause, rfl, rfl⟩

theorem precedesHandler_iff_notBegun {h : Handler RocketEvent Unit} {fault : DeliveryFault}
    (registered : p.bus.handler? event.kind.type.name = some h)
    (failed : Processor.concluded event.eventId (play (p.dispatchClaimed event) v).1 =
      .error fault) :
    fault.precedesHandler = true ↔ NotBegun p.mutex event.lockKey (h event) v := by
  have ended := exclusively_ended p.mutex event.lockKey (h event) v
  rw [p.dispatchClaimed_of_some event registered, play_bind] at failed
  cases played : play (p.mutex.exclusively event.lockKey (h event)) v with
  | mk outcome next =>
      rw [played] at ended failed
      cases ended with
      | broken unbegun panics =>
          cases failed
          exact iff_of_true rfl unbegun
      | keptOut unbegun calm =>
          rw [play_afterDispatch_fst] at failed
          cases failed
          exact iff_of_true rfl unbegun
      | settled begun calm =>
          rw [play_afterDispatch_fst] at failed
          rcases told_eq_error failed with ⟨cause, lost, rfl⟩
          refine iff_of_false ?_ begun.not_notBegun
          rw [show DeliveryFault.precedesHandler (.notDispatched _ cause) = false from
            precedesHandler_settle lost]
          exact Bool.false_ne_true
      | snapped begun panics =>
          rw [play_afterDispatch_fst] at failed
          cases failed
          exact iff_of_false Bool.false_ne_true begun.not_notBegun

/-- The failure of a delivery tells whether a handler was invoked for its event. -/
theorem unhandled_iff_precedesHandler {fault : DeliveryFault}
    (failed : (play (p.process body) w).1 = .returned (.error fault)) :
    Unhandled p body w ↔ fault.precedesHandler = true := by
  cases resolved : RocketEvent.ofBody body with
  | error flaw =>
      have unread (q : Processor) : q.process body = .done (.error (.unresolved flaw)) := by
        unfold Processor.process
        rw [resolved]
        rfl
      rw [unread] at failed
      cases failed
      refine iff_of_true ?_ rfl
      intro f
      rw [unread, unread]
  | ok event =>
      rw [play_handled resolved] at failed
      have failed := Outcome.returned.inj failed
      cases claimed : play (Script.perform (.claim event.eventId p.retention)) w with
      | mk outcome v =>
          by_cases granted : outcome = .returned (.ok true)
          · subst granted
            rw [(handleOnce_claimed claimed).1] at failed
            cases found : p.bus.handler? event.kind.type.name with
            | none =>
                refine iff_of_true (unhandled_of_none resolved claimed found) ?_
                rw [p.dispatchClaimed_of_none event found, play_afterDispatch_fst] at failed
                cases failed
                rfl
            | some h =>
                rw [precedesHandler_iff_notBegun found failed]
                constructor
                · intro unhandled
                  exact unhandled.notBegun resolved claimed found
                · intro unbegun
                  exact unhandled_of_notBegun resolved claimed found unbegun
          · exact iff_of_true (unhandled_of_unclaimed resolved claimed granted)
              (precedesHandler_unclaimed claimed granted failed)

end World
end MissionControl
