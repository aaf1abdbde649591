import MissionControl.Retry
import MissionControl.World

/-!
# Footprints

Which calls a script can make, whatever is replied to them, and what a world keeps while it is
played.  A script that makes no call on a store leaves the store as it is, and one that does not
move the clock only takes readings from it.
-/

namespace MissionControl

/-! ## Kinds of calls -/

namespace Call

def isOnRockets : Call → Bool
  | findRocket _ => true
  | isKnown _ => true
  | listRockets _ => true
  | saveRocket _ => true
  | _ => false

def isOnClaims : Call → Bool
  | claim _ _ => true
  | forget _ => true
  | _ => false

def isClaim : Call → Bool
  | claim _ _ => true
  | _ => false

def isOnLocks : Call → Bool
  | acquire _ _ _ _ => true
  | release _ _ _ => true
  | _ => false

/-- Whether a call passes the time between attempts. -/
def isIdle : Call → Bool
  | pause _ => true
  | draw => true
  | _ => false

def movesClock : Call → Bool
  | moveClock _ => true
  | _ => false

theorem movesClock_of_isOnRockets {c : Call} (h : c.isOnRockets = true) :
    c.movesClock = false := by
  cases c <;> first | rfl | cases h

theorem isOnLocks_of_isOnRockets {c : Call} (h : c.isOnRockets = true) :
    c.isOnLocks = false := by
  cases c <;> first | rfl | cases h

theorem isOnClaims_of_isOnRockets {c : Call} (h : c.isOnRockets = true) :
    c.isOnClaims = false := by
  cases c <;> first | rfl | cases h

theorem isClaim_of_isOnRockets {c : Call} (h : c.isOnRockets = true) : c.isClaim = false := by
  cases c <;> first | rfl | cases h

theorem isOnLocks_of_isIdle {c : Call} (h : c.isIdle = true) : c.isOnLocks = false := by
  cases c <;> first | rfl | cases h

end Call

namespace Script

variable {α β : Type}

/-- Every call that a script can make is allowed. -/
def Only (allowed : Call → Prop) : Script α → Prop
  | done _ => True
  | panicked _ => True
  | call c next => allowed c ∧ ∀ reply, (next reply).Only allowed

namespace Only

variable {allowed : Call → Prop}

theorem mono {wider : Call → Prop} {s : Script α} (h : s.Only allowed)
    (wide : ∀ c, allowed c → wider c) : s.Only wider := by
  induction s with
  | done value =>
      trivial
  | panicked message =>
      trivial
  | call c next ih =>
      exact ⟨wide c h.1, fun reply => ih reply (h.2 reply)⟩

theorem bind {s : Script α} {f : α → Script β} (h : s.Only allowed)
    (hf : ∀ value, (f value).Only allowed) : (s.bind f).Only allowed := by
  induction s with
  | done value =>
      exact hf value
  | panicked message =>
      trivial
  | call c next ih =>
      exact ⟨h.1, fun reply => ih reply (h.2 reply)⟩

theorem perform {c : Call} (h : allowed c) : (Script.perform c).Only allowed := by
  refine ⟨h, fun reply => ?_⟩
  cases reply <;> trivial

theorem outcome {s : Script α} (h : s.Only allowed) : s.outcome.Only allowed := by
  induction s with
  | done value =>
      trivial
  | panicked message =>
      trivial
  | call c next ih =>
      exact ⟨h.1, fun reply => ih reply (h.2 reply)⟩

theorem task {s : Script α} (h : s.Only allowed) (pauses : allowed (.pause 0)) :
    s.task.Only allowed := by
  refine (perform pauses).bind fun _ => h.outcome.bind fun _ => ?_
  exact (perform pauses).bind fun _ => trivial

end Only

end Script

namespace RetryPlan

variable {ε α : Type}

theorem only_pause {allowed : Call → Prop} (p : RetryPlan)
    (idle : ∀ c : Call, c.isIdle = true → allowed c) : p.pause.Only allowed := by
  unfold pause
  split
  · exact Script.Only.perform (idle _ rfl)
  · exact (Script.Only.perform (idle _ rfl)).bind fun _ =>
      Script.Only.perform (idle _ rfl)

theorem attemptFrom_zero (p : RetryPlan) (operation : Nat → Script (Except ε α)) (number : Nat) :
    p.attemptFrom operation 0 number = operation number := rfl

theorem attemptFrom_succ (p : RetryPlan) (operation : Nat → Script (Except ε α))
    (left number : Nat) :
    p.attemptFrom operation (left + 1) number =
      (operation number).bind fun
        | .ok value => .done (.ok value)
        | .error _ => p.pause.bind fun _ => p.attemptFrom operation left (number + 1) := by
  rw [attemptFrom]
  apply congrArg
  funext result
  cases result <;> rfl

theorem only_attemptFrom {allowed : Call → Prop} (p : RetryPlan)
    {operation : Nat → Script (Except ε α)} (each : ∀ number, (operation number).Only allowed)
    (idle : ∀ c : Call, c.isIdle = true → allowed c) (left number : Nat) :
    (p.attemptFrom operation left number).Only allowed := by
  induction left generalizing number with
  | zero =>
      exact each number
  | succ left ih =>
      rw [attemptFrom_succ]
      refine (each number).bind fun result => ?_
      cases result with
      | ok value =>
          trivial
      | error cause =>
          exact (only_pause p idle).bind fun _ => ih (number + 1)

theorem only_retry {allowed : Call → Prop} (p : RetryPlan)
    {operation : Nat → Script (Except ε α)} (each : ∀ number, (operation number).Only allowed)
    (idle : ∀ c : Call, c.isIdle = true → allowed c) : (p.retry operation).Only allowed :=
  only_attemptFrom p each idle _ _

end RetryPlan

/-! ## What a world keeps -/

namespace Supply

def drop {α : Type} (taken : Nat) (s : Supply α) : Supply α := fun n => s (n + taken)

theorem after_drop {α : Type} (taken : Nat) (s : Supply α) :
    (s.drop taken).after = s.drop (taken + 1) := by
  funext n
  simp only [after, drop]
  rw [Nat.add_right_comm, Nat.add_assoc]

theorem drop_drop {α : Type} (first second : Nat) (s : Supply α) :
    (s.drop first).drop second = s.drop (second + first) := by
  funext n
  simp only [drop, Nat.add_assoc]

def Rising (readings : Supply Instant) : Prop := ∀ n, readings n ≤ readings (n + 1)

theorem Rising.le {readings : Supply Instant} (rising : readings.Rising) {m n : Nat}
    (h : m ≤ n) : readings m ≤ readings n := by
  induction h with
  | refl =>
      exact Instant.le_refl _
  | step _ ih =>
      exact Instant.le_trans ih (rising _)

end Supply

namespace World

variable {L C R α : Type}

theorem rockets_moveClock (milliseconds : Int) (w : World L C R) :
    (w.moveClock milliseconds).2.rockets = w.rockets := by
  simp only [moveClock]
  split <;> rfl

theorem claims_moveClock (milliseconds : Int) (w : World L C R) :
    (w.moveClock milliseconds).2.claims = w.claims := by
  simp only [moveClock]
  split <;> rfl

theorem locks_moveClock (milliseconds : Int) (w : World L C R) :
    (w.moveClock milliseconds).2.locks = w.locks := by
  simp only [moveClock]
  split <;> rfl

theorem tokens_moveClock (milliseconds : Int) (w : World L C R) :
    (w.moveClock milliseconds).2.tokens = w.tokens := by
  simp only [moveClock]
  split <;> rfl

variable [LockStore L] [ClaimStore C] [RocketStore R]

/-- What the calls of a script keep is kept while it is played. -/
theorem play_keeps {allowed : Call → Prop} (kept : World L C R → Prop)
    (step : ∀ c w, allowed c → kept w → kept ((w.serve c).world.waited (w.serve c).wait))
    {s : Script α} (h : s.Only allowed) {w : World L C R} (hw : kept w) : kept (play s w).2 := by
  induction s generalizing w with
  | done value =>
      exact hw
  | panicked message =>
      exact hw
  | call c next ih =>
      exact ih _ (h.2 _) (step c w h.1 hw)

theorem rockets_serve {c : Call} (h : c.isOnRockets = false) (w : World L C R) :
    (w.serve c).world.rockets = w.rockets := by
  cases c with
  | findRocket id =>
      cases h
  | isKnown id =>
      cases h
  | listRockets key =>
      cases h
  | saveRocket r =>
      cases h
  | moveClock milliseconds =>
      exact rockets_moveClock milliseconds w
  | _ =>
      rfl

theorem claims_serve {c : Call} (h : c.isOnClaims = false) (w : World L C R) :
    (w.serve c).world.claims = w.claims := by
  cases c with
  | claim eventId retention =>
      cases h
  | forget eventId =>
      cases h
  | moveClock milliseconds =>
      exact claims_moveClock milliseconds w
  | _ =>
      rfl

theorem locks_serve {c : Call} (h : c.isOnLocks = false) (w : World L C R) :
    (w.serve c).world.locks = w.locks := by
  cases c with
  | acquire name token expiry patience =>
      cases h
  | release name token patience =>
      cases h
  | moveClock milliseconds =>
      exact locks_moveClock milliseconds w
  | _ =>
      rfl

theorem tokens_le_serve (c : Call) (w : World L C R) :
    w.tokens ≤ (w.serve c).world.tokens := by
  cases c with
  | newToken =>
      exact Nat.le_succ w.tokens
  | moveClock milliseconds =>
      exact Nat.le_of_eq (tokens_moveClock milliseconds w).symm
  | _ =>
      exact Nat.le_refl _

theorem rockets_play {s : Script α} (h : s.Only fun c => c.isOnRockets = false)
    (w : World L C R) : (play s w).2.rockets = w.rockets := by
  refine play_keeps (fun v => v.rockets = w.rockets) (fun c v hc hv => ?_) h rfl
  exact (rockets_serve hc v).trans hv

theorem claims_play {s : Script α} (h : s.Only fun c => c.isOnClaims = false)
    (w : World L C R) : (play s w).2.claims = w.claims := by
  refine play_keeps (fun v => v.claims = w.claims) (fun c v hc hv => ?_) h rfl
  exact (claims_serve hc v).trans hv

/-- A script that keeps to the rockets leaves the rest of the world as it is. -/
theorem play_onRockets {s : Script α} (h : s.Only fun c => c.isOnRockets = true)
    (w : World L C R) : (play s w).2 = { w with rockets := (play s w).2.rockets } := by
  refine play_keeps (fun v => v = { w with rockets := v.rockets }) (fun c v hc hv => ?_) h rfl
  cases c with
  | findRocket id =>
      exact hv
  | isKnown id =>
      exact hv
  | listRockets key =>
      exact hv
  | saveRocket r =>
      show ({ v with rockets := _ } : World L C R) = _
      rw [hv]
      rfl
  | _ =>
      cases hc

theorem exists_reply_of_isIdle {c : Call} (h : c.isIdle = true) (w : World L C R) :
    ∃ value, (w.serve c).reply = .returned value := by
  cases c with
  | pause nanoseconds =>
      exact ⟨(), rfl⟩
  | draw =>
      exact ⟨_, rfl⟩
  | _ =>
      cases h

theorem clock_serve {c : Call} (h : c.movesClock = false) (w : World L C R) :
    (w.serve c).world.clock = w.clock ∨ (w.serve c).world.clock = w.clock.tick := by
  cases c with
  | acquire name token expiry patience =>
      exact .inr rfl
  | release name token patience =>
      exact .inr rfl
  | claim eventId retention =>
      exact .inr rfl
  | moveClock milliseconds =>
      cases h
  | _ =>
      exact .inl rfl

theorem clock_play {readings : Supply Instant} {s : Script α}
    (h : s.Only fun c => c.movesClock = false) {w : World L C R}
    (hw : w.clock = .going readings) :
    ∃ taken, (play s w).2.clock = .going (readings.drop taken) := by
  refine play_keeps (fun v => ∃ taken, v.clock = .going (readings.drop taken))
    (fun c v hc hv => ?_) h ⟨0, hw⟩
  rcases hv with ⟨taken, hv⟩
  change ∃ taken, (v.serve c).world.clock = _
  rcases clock_serve hc v with same | ticked
  · exact ⟨taken, same.trans hv⟩
  · refine ⟨taken + 1, ?_⟩
    rw [ticked, hv]
    show Clock.going (readings.drop taken).after = _
    rw [Supply.after_drop]

end World

end MissionControl
