import MissionControl.Lock.Mutex
import MissionControl.Proofs.World.Moments

/-!
# Attempts on a lock

Acquiring a lock and giving it back are the same procedure on two requests: the request is made
until the store grants it in time or the attempts are spent.  The main statement says which answers
such a procedure can meet and what it comes to.
-/

namespace MissionControl

/-! ## Requests and answers -/

/-- What a lock store is asked for. -/
inductive LockRequest where
  | acquire (name : String) (token : Token) (expiry : Duration)
  | release (name : String) (token : Token)

namespace LockRequest

def call (patience : Duration) : LockRequest → Call
  | acquire name token expiry => .acquire name token expiry patience
  | release name token => .release name token patience

def refusal : LockRequest → LockFault
  | acquire _ _ _ => .heldByAnother
  | release _ _ => .notHeld

def attempt (patience : Duration) : LockRequest → Script (Except LockFault Unit)
  | acquire name token expiry =>
      (Script.perform (.acquire name token expiry patience)).bind fun answer =>
        .done (Mutex.granted .heldByAnother answer)
  | release name token =>
      (Script.perform (.release name token patience)).bind fun answer =>
        .done (Mutex.granted .notHeld answer)

def exchange (patience : Duration) (request : LockRequest) (reply : LockReply) :
    Call × LockReply :=
  (request.call patience, reply)

end LockRequest

namespace LockReply

def grants (patience : Duration) : LockReply → Bool
  | answers after (.ok true) => decide (after ≤ patience.milliseconds)
  | _ => false

/-- Why a request was not granted, where `no` is what an answer of no means. -/
def failure (patience : Duration) (no : LockFault) : LockReply → LockFault
  | answers after (.ok _) => if after ≤ patience.milliseconds then no else .noAnswer patience
  | answers after (.error cause) =>
      if after ≤ patience.milliseconds then cause else .noAnswer patience
  | _ => .noAnswer patience

theorem heard_granted (patience : Duration) (no : LockFault) {reply : LockReply}
    (calm : reply.isPanic = false) :
    (reply.heard patience).map (Mutex.granted no) =
      .returned (if reply.grants patience then .ok () else .error (reply.failure patience no)) := by
  cases reply with
  | answers after result =>
      by_cases inTime : after ≤ patience.milliseconds
      · cases result with
        | ok granted =>
            cases granted <;>
              simp [heard, grants, failure, Outcome.map, Mutex.granted, inTime]
        | error cause =>
            simp [heard, grants, failure, Outcome.map, Mutex.granted, inTime]
      · cases result with
        | ok granted =>
            cases granted <;>
              simp [heard, grants, failure, Outcome.map, Mutex.granted, inTime]
        | error cause =>
            simp [heard, grants, failure, Outcome.map, Mutex.granted, inTime]
  | silent =>
      rfl
  | panics message =>
      cases calm

end LockReply

/--
The answers to a request that is made up to `limit` times: all but the last are no grants, and the
last one is a grant or the last that may be asked for.
-/
inductive Tried (patience : Duration) (no : LockFault) :
    (limit : Nat) → List LockReply → Except LockFault Unit → Prop where
  | granted {limit : Nat} (failures : List LockReply) (last : LockReply) :
      (∀ reply ∈ failures, reply.grants patience = false) → last.grants patience = true →
      failures.length < limit → Tried patience no limit (failures ++ [last]) (.ok ())
  | spent {limit : Nat} (failures : List LockReply) (last : LockReply) :
      (∀ reply ∈ failures, reply.grants patience = false) → last.grants patience = false →
      failures.length + 1 = limit →
      Tried patience no limit (failures ++ [last]) (.error (last.failure patience no))

namespace Tried

variable {patience : Duration} {no : LockFault} {limit : Nat} {reply : LockReply}

theorem one_of_grants (h : reply.grants patience = true) :
    Tried patience no (limit + 1) [reply] (.ok ()) :=
  .granted [] reply (by simp) h (by simp)

theorem one_of_refused (h : reply.grants patience = false) :
    Tried patience no 1 [reply] (.error (reply.failure patience no)) :=
  .spent [] reply (by simp) h (by simp)

theorem cons {replies : List LockReply} {result : Except LockFault Unit}
    (refused : reply.grants patience = false) (h : Tried patience no limit replies result) :
    Tried patience no (limit + 1) (reply :: replies) result := by
  cases h with
  | granted failures last failed final short =>
      refine .granted (reply :: failures) last ?_ final (by simpa using short)
      simpa [refused] using failed
  | spent failures last failed final short =>
      refine .spent (reply :: failures) last ?_ final (by simpa using short)
      simpa [refused] using failed

end Tried

/-! ## One attempt -/

namespace World

variable {L C R : Type} [LockStore L]

def replyTo (w : World L C R) : LockRequest → LockReply
  | .acquire name token expiry => (LockStore.acquire name token expiry w.clock.read w.locks).1
  | .release name token => (LockStore.release name token w.clock.read w.locks).1

theorem lockReply?_call (w : World L C R) (patience : Duration) (r : LockRequest) :
    w.lockReply? (r.call patience) = some (w.replyTo r) := by
  cases r <;> rfl

variable [ClaimStore C] [RocketStore R]

def requested (patience : Duration) (r : LockRequest) (w : World L C R) : World L C R :=
  (w.serve (r.call patience)).world.waited (w.serve (r.call patience)).wait

theorem moments_attempt (patience : Duration) (r : LockRequest) (w : World L C R) :
    moments (r.attempt patience) w = [⟨w, r.call patience⟩] := by
  cases r with
  | acquire name token expiry =>
      exact moments_perform_bind_done _ _ w
  | release name token =>
      exact moments_perform_bind_done _ _ w

theorem lockLog_attempt (patience : Duration) (r : LockRequest) (w : World L C R) :
    lockLog (moments (r.attempt patience) w) = [r.exchange patience (w.replyTo r)] := by
  have told : (⟨w, r.call patience⟩ : Moment L C R).lockExchange? =
      some (r.exchange patience (w.replyTo r)) := by
    rw [Moment.lockExchange?, lockReply?_call]
    rfl
  rw [moments_attempt, lockLog, List.filterMap_cons_some told, List.filterMap_nil]

theorem replyTo_calm {patience : Duration} {r : LockRequest} {w : World L C R}
    (calm : LocksAnswer (r.attempt patience) w) : (w.replyTo r).isPanic = false := by
  apply calm (r.exchange patience (w.replyTo r))
  rw [lockLog_attempt]
  exact List.mem_singleton_self _

theorem play_attempt {patience : Duration} {r : LockRequest} {w : World L C R}
    (calm : LocksAnswer (r.attempt patience) w) :
    play (r.attempt patience) w =
      (.returned
        (if (w.replyTo r).grants patience then .ok ()
          else .error ((w.replyTo r).failure patience r.refusal)),
        w.requested patience r) := by
  rw [← LockReply.heard_granted patience r.refusal (replyTo_calm calm)]
  cases r with
  | acquire name token expiry =>
      exact play_perform_bind_done _ _ w
  | release name token =>
      exact play_perform_bind_done _ _ w

/-! ## All attempts -/

theorem play_pause (p : RetryPlan) (w : World L C R) :
    ∃ w', play p.pause w = (.returned (), w') := by
  unfold RetryPlan.pause
  split
  · exact ⟨_, rfl⟩
  · exact ⟨_, rfl⟩

/-- A request that is retried meets answers as they can be, and comes to what they say. -/
theorem play_attempts (p : RetryPlan) (patience : Duration) (r : LockRequest)
    (left number : Nat) (w : World L C R)
    (calm : LocksAnswer (p.attemptFrom (fun _ => r.attempt patience) left number) w) :
    ∃ replies result, Tried patience r.refusal (left + 1) replies result ∧
      (play (p.attemptFrom (fun _ => r.attempt patience) left number) w).1 = .returned result ∧
      lockLog (moments (p.attemptFrom (fun _ => r.attempt patience) left number) w) =
        replies.map (r.exchange patience) := by
  induction left generalizing number w with
  | zero =>
      rw [RetryPlan.attemptFrom_zero] at calm ⊢
      rw [play_attempt calm, lockLog_attempt]
      by_cases grants : (w.replyTo r).grants patience = true
      · rw [if_pos grants]
        exact ⟨_, _, .one_of_grants grants, rfl, rfl⟩
      · rw [if_neg grants]
        exact ⟨_, _, .one_of_refused (Bool.not_eq_true _ ▸ grants), rfl, rfl⟩
  | succ left ih =>
      rw [RetryPlan.attemptFrom_succ] at calm ⊢
      have first := play_attempt calm.first
      by_cases grants : (w.replyTo r).grants patience = true
      · rw [if_pos grants] at first
        refine ⟨_, _, .one_of_grants grants, ?_, ?_⟩
        · rw [play_bind_of_returned first, play_done]
        · rw [moments_bind_of_returned first, lockLog_append, lockLog_attempt, moments_done]
          rfl
      · rw [if_neg grants] at first
        rcases play_pause p (w.requested patience r) with ⟨rested, paused⟩
        have calm := (calm.second first).second paused
        rcases ih (number + 1) rested calm with ⟨replies, result, tried, played, log⟩
        refine ⟨w.replyTo r :: replies, result, tried.cons (Bool.not_eq_true _ ▸ grants), ?_, ?_⟩
        · rw [play_bind_of_returned first, play_bind_of_returned paused, played]
        · have quiet : lockLog (moments p.pause (w.requested patience r)) = [] :=
            lockLog_eq_nil (p.only_pause fun _ idle => Call.isOnLocks_of_isIdle idle) _
          rw [moments_bind_of_returned first, lockLog_append, lockLog_attempt,
            moments_bind_of_returned paused, lockLog_append, quiet, log]
          rfl

end World

end MissionControl
