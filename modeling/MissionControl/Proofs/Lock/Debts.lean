import MissionControl.Proofs.Lock.Protocol

/-!
# Debts

A script that was granted a lock owes it until it asks to give it back.  An honest script owes
every lock from the moment that it is granted, asks for leases and claims of given lengths, and
leaves the clock alone.  A procedure under a lock is honest if the procedure itself is.
-/

namespace MissionControl

def Call.isPlain : Call → Bool
  | acquire _ _ _ _ => false
  | claim _ _ => false
  | moveClock _ => false
  | _ => true

namespace Call

theorem isPlain_of_isOnRockets {c : Call} (h : c.isOnRockets = true) : c.isPlain = true := by
  cases c <;> first | rfl | cases h

theorem isPlain_of_isIdle {c : Call} (h : c.isIdle = true) : c.isPlain = true := by
  cases c <;> first | rfl | cases h

end Call

namespace Script

variable {α β : Type} {name : String} {token : Token} {expiry retention patience : Duration}

/-! ## Owing a lock -/

/-- As long as its calls return, a script asks to give a lock back before it ends. -/
inductive Owes (name : String) (token : Token) : Script α → Prop where
  | pays {patience : Duration} {next : Outcome (Except LockFault Bool) → Script α} :
      Owes name token (.call (.release name token patience) next)
  | goes {c : Call} {next : Outcome c.Reply → Script α} :
      (∀ value, Owes name token (next (.returned value))) → Owes name token (.call c next)

namespace Owes

variable {s : Script α}

theorem bind (h : s.Owes name token) (f : α → Script β) : (s.bind f).Owes name token := by
  induction h with
  | pays =>
      exact .pays
  | goes rest ih =>
      exact .goes ih

theorem outcome (h : s.Owes name token) : s.outcome.Owes name token := by
  induction h with
  | pays =>
      exact .pays
  | goes rest ih =>
      exact .goes ih

theorem task (h : s.Owes name token) : s.task.Owes name token := by
  refine .goes fun _ => ?_
  exact h.outcome.bind _

end Owes

theorem owes_outcome_bind (s : Script α) {f : Outcome α → Script β}
    (owes : ∀ result, (f result).Owes name token) : (s.outcome.bind f).Owes name token := by
  induction s with
  | done value =>
      exact owes (.returned value)
  | panicked message =>
      exact owes (.panicked message)
  | call c next ih =>
      exact .goes fun value => ih (.returned value)

theorem owes_task_bind (s : Script α) {f : Outcome α → Script β}
    (owes : ∀ result, (f result).Owes name token) : (s.task.bind f).Owes name token := by
  refine .goes fun _ => ?_
  show ((s.outcome.bind fun result => rest.bind fun _ => .done result).bind f).Owes name token
  rw [bind_assoc]
  apply owes_outcome_bind
  intro result
  exact .goes fun _ => owes result

/-! ## Honesty -/

/--
As long as its calls return, a script owes every lock once it is granted, and asks for leases and
claims of two given lengths.
-/
inductive Honest (expiry retention : Duration) : Script α → Prop where
  | done (value : α) : Honest expiry retention (.done value)
  | panicked (message : String) : Honest expiry retention (.panicked message)
  | asks {name : String} {token : Token} {patience : Duration}
      {next : Outcome (Except LockFault Bool) → Script α} :
      (∀ value, Honest expiry retention (next (.returned value))) →
      (next (.returned (.ok true))).Owes name token →
      Honest expiry retention (.call (.acquire name token expiry patience) next)
  | claims {eventId : String} {next : Outcome (Except ClaimFault Bool) → Script α} :
      (∀ value, Honest expiry retention (next (.returned value))) →
      Honest expiry retention (.call (.claim eventId retention) next)
  | goes {c : Call} {next : Outcome c.Reply → Script α} : c.isPlain = true →
      (∀ value, Honest expiry retention (next (.returned value))) →
      Honest expiry retention (.call c next)

namespace Honest

variable {s : Script α}

theorem bind {f : α → Script β} (h : s.Honest expiry retention)
    (hf : ∀ value, (f value).Honest expiry retention) : (s.bind f).Honest expiry retention := by
  induction h with
  | done value =>
      exact hf value
  | panicked message =>
      exact .panicked message
  | asks rest owes ih =>
      exact .asks ih (owes.bind f)
  | claims rest ih =>
      exact .claims ih
  | goes plain rest ih =>
      exact .goes plain ih

theorem outcome (h : s.Honest expiry retention) : s.outcome.Honest expiry retention := by
  induction h with
  | done value =>
      exact .done _
  | panicked message =>
      exact .done _
  | asks rest owes ih =>
      exact .asks ih owes.outcome
  | claims rest ih =>
      exact .claims ih
  | goes plain rest ih =>
      exact .goes plain ih

theorem of_only (h : s.Only fun c => c.isPlain = true) : s.Honest expiry retention := by
  induction s with
  | done value =>
      exact .done value
  | panicked message =>
      exact .panicked message
  | call c next ih =>
      exact .goes h.1 fun value => ih _ (h.2 _)

theorem perform {c : Call} (plain : c.isPlain = true) :
    (Script.perform c).Honest expiry retention :=
  of_only (Only.perform plain)

theorem task (h : s.Honest expiry retention) : s.task.Honest expiry retention := by
  refine (perform rfl).bind fun _ => h.outcome.bind fun result => ?_
  exact (perform rfl).bind fun _ => .done result

theorem attempt_bind {f : Except LockFault Unit → Script α}
    (honest : ∀ result, (f result).Honest expiry retention)
    (owes : (f (.ok ())).Owes name token) :
    (((LockRequest.acquire name token expiry).attempt patience).bind f).Honest
      expiry retention := by
  refine .asks (fun answer => ?_) owes
  cases answer with
  | error cause =>
      exact honest (.error cause)
  | ok granted =>
      cases granted with
      | false =>
          exact honest (.error .heldByAnother)
      | true =>
          exact honest (.ok ())

theorem attemptFrom_bind (p : RetryPlan) {f : Except LockFault Unit → Script α}
    (honest : ∀ result, (f result).Honest expiry retention)
    (owes : (f (.ok ())).Owes name token) (left number : Nat) :
    ((p.attemptFrom (fun _ => (LockRequest.acquire name token expiry).attempt patience) left
      number).bind f).Honest expiry retention := by
  induction left generalizing number with
  | zero =>
      exact attempt_bind honest owes
  | succ left ih =>
      rw [RetryPlan.attemptFrom_succ, bind_assoc]
      refine attempt_bind (fun result => ?_) owes
      cases result with
      | ok granted =>
          exact honest (.ok granted)
      | error cause =>
          show ((p.pause.bind _).bind f).Honest expiry retention
          rw [bind_assoc]
          refine bind ?_ fun _ => ih (number + 1)
          exact of_only (p.only_pause fun _ => Call.isPlain_of_isIdle)

end Honest

end Script

/-! ## Procedures under a lock -/

namespace Mutex

variable {ε α : Type} (m : Mutex) {name : String} {token : Token} {retention : Duration}
  {operation : Script (Except ε α)}

theorem plain_release :
    ((LockRequest.release name token).retried m).Only fun c => c.isPlain = true :=
  LockRequest.only_retried rfl fun _ => Call.isPlain_of_isIdle

theorem owes_release : ((LockRequest.release name token).retried m).Owes name token := by
  -- asking once to give the lock back is enough, however often the request may be repeated
  unfold LockRequest.retried RetryPlan.retry
  cases m.retrying.limit - 1 with
  | zero =>
      exact .pays
  | succ left =>
      rw [RetryPlan.attemptFrom_succ]
      exact .pays

theorem owes_proceed (operation : Script (Except ε α)) :
    (m.proceed name token (.done operation) (.ok ())).Owes name token := by
  have locked : (m.lockedSection name token operation).Owes name token := by
    rw [lockedSection_eq]
    apply Script.owes_task_bind
    intro result
    exact m.owes_release.bind _
  exact locked.task.bind _

theorem honest_proceed (h : operation.Honest m.expiry retention)
    (acquired : Except LockFault Unit) :
    (m.proceed name token (.done operation) acquired).Honest m.expiry retention := by
  cases acquired with
  | error cause =>
      refine Script.Honest.bind ?_ fun _ => .done _
      exact (Script.Honest.perform rfl).bind fun _ => .done _
  | ok granted =>
      have locked : (m.lockedSection name token operation).Honest m.expiry retention := by
        rw [lockedSection_eq]
        refine h.task.bind fun result => ?_
        exact (Script.Honest.of_only m.plain_release).bind fun _ => .done _
      exact locked.task.bind fun result => .done _

/-- A procedure under a lock is honest if the procedure is. -/
theorem honest_exclusively (key : String) (h : operation.Honest m.expiry retention) :
    (m.exclusively key operation).Honest m.expiry retention := by
  rw [exclusively_eq]
  refine (Script.Honest.perform rfl).bind fun token => ?_
  exact .attemptFrom_bind m.retrying (m.honest_proceed h) (m.owes_proceed operation) _ _

end Mutex

end MissionControl
