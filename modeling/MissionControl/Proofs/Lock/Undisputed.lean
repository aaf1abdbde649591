import MissionControl.Proofs.Lock.Ownership
import MissionControl.Proofs.Lock.Protocol
import MissionControl.Proofs.Time.Distance

/-!
# Undisputed locks

Where no one has a live lease on a lock in memory, it is granted at the first attempt and taken
back at the first attempt.  A procedure that keeps to the rockets then comes under the lock to what
it comes to without it, and no lease is left of it.
-/

namespace MissionControl

namespace Register

variable {α : Type}

theorem eq_of_entries {a b : Register α} (same : a.entries = b.entries) : a = b := by
  cases a
  cases b
  cases same
  rfl

theorem erase_put (name : String) (value : α) (register : Register α) :
    (register.put name value).erase name = register.erase name := by
  apply eq_of_entries
  show (((name, value) :: register.entries.filter fun entry => entry.1 ≠ name).filter
    fun entry => entry.1 ≠ name) = register.entries.filter fun entry => entry.1 ≠ name
  rw [List.filter_cons_of_neg (by simp), List.filter_filter]
  simp only [Bool.and_self]

theorem eq_empty_of_get? {register : Register α} (none : ∀ name, register.get? name = .none) :
    register = {} := by
  apply eq_of_entries
  cases entries : register.entries with
  | nil =>
      rfl
  | cons entry rest =>
      have found := none entry.1
      rw [get?, entries, lookup_cons, if_pos rfl] at found
      cases found

end Register

namespace Leases

variable {leases : Leases} {name : String} {now : Instant}

theorem release_of_own {token : Token} {lease : Lease} (whole : leases.isBroken = false)
    (found : leases.granted.get? name = some lease) (own : lease.token = token)
    (live : now < lease.expires) :
    leases.release name token now =
      (.now (.ok true), { leases with granted := leases.granted.erase name }) := by
  rcases release_of_whole name token now whole with ⟨given, comes, iff⟩
  rw [iff.mpr ⟨lease, found, own, live⟩] at comes
  exact comes

theorem acquire_of_passes {expiry : Duration} (name : String) (token : Token)
    (whole : leases.isBroken = false) (passes : expiry.Passes now) :
    ∃ granted left, leases.acquire name token expiry now = (.now (.ok granted), left) ∧
      left.isBroken = false := by
  rcases Option.isSome_iff_exists.mp passes.tellable with ⟨expires, after⟩
  unfold acquire
  rw [if_neg (Nat.not_lt.mpr passes.short), whole, if_neg Bool.false_ne_true, after]
  split
  · exact ⟨false, leases, rfl, whole⟩
  · exact ⟨true, _, rfl, rfl⟩

theorem get?_release_of_own {lease : Lease} (whole : leases.isBroken = false)
    (found : leases.granted.get? name = some lease) (live : lease.isLive now = true) :
    (leases.release name lease.token now).2.granted.get? name = none := by
  rw [release_of_own whole found rfl (of_decide_eq_true live)]
  show (leases.granted.erase name).get? name = none
  rw [Register.get?_erase, if_pos rfl]

def request (now : Instant) (leases : Leases) : LockRequest → LockReply × Leases
  | .acquire name token expiry => leases.acquire name token expiry now
  | .release name token => leases.release name token now

def without (name : String) (leases : Leases) : Leases :=
  { leases with granted := leases.granted.erase name }

/-- No one has a lease that is live at a time, and the store is not broken. -/
structure Idle (now : Instant) (leases : Leases) : Prop where
  whole : leases.isBroken = false
  expired : ∀ name lease, leases.granted.get? name = some lease → lease.isLive now = false

/-- Nothing is left but what was there before. -/
structure Within (left leases : Leases) : Prop where
  broken : left.isBroken = leases.isBroken
  among : ∀ name lease, left.granted.get? name = some lease →
    leases.granted.get? name = some lease

theorem idle_empty (now : Instant) : Idle now {} := by
  constructor
  · rfl
  · intro name lease found
    cases found

namespace Within

variable {left : Leases}

theorem refl (leases : Leases) : leases.Within leases := by
  constructor
  · rfl
  · intro name lease found
    exact found

theorem without (name : String) (leases : Leases) : (leases.without name).Within leases := by
  constructor
  · rfl
  · intro other lease found
    rw [Leases.without, Register.get?_erase] at found
    split at found
    · cases found
    · exact found

theorem idle (h : left.Within leases) (idle : leases.Idle now) : left.Idle now := by
  constructor
  · exact h.broken.trans idle.whole
  · intro name lease found
    exact idle.expired name lease (h.among name lease found)

theorem eq_empty (h : left.Within {}) : left = {} := by
  have granted : left.granted = {} := by
    apply Register.eq_empty_of_get?
    intro name
    cases found : left.granted.get? name with
    | none =>
        rfl
    | some lease =>
        cases h.among name lease found
  have whole := h.broken
  rcases left with ⟨entries, isBroken⟩
  subst granted whole
  rfl

end Within

theorem within_release (name : String) (token : Token) (now : Instant) (leases : Leases) :
    (leases.release name token now).2.Within leases := by
  have released := released_release name token now leases
  generalize leases.release name token now = told at released ⊢
  cases released with
  | failed fault =>
      exact .refl leases
  | refused =>
      exact .refl leases
  | returned found own live =>
      exact .without name leases

end Leases

/-- A lock that is granted at a time lasts for a while, up to an end that can be told. -/
structure Mutex.Lasting (m : Mutex) (now : Instant) : Prop where
  positive : 0 < m.expiry.nanoseconds
  short : m.expiry.nanoseconds ≤ Instant.longestShift
  tellable : (now.after? m.expiry).isSome = true

namespace World

variable {C R : Type} {w : World Leases C R} {now : Instant} {name : String} {token : Token}

/-! ## The leases while the lock is held -/

def holding (name : String) (expires : Instant) (w : World Leases C R) : World Leases C R :=
  { w with
    locks := { w.locks with granted := w.locks.granted.put name ⟨.fresh w.tokens, expires⟩ }
    tokens := w.tokens + 1 }

theorem request_acquire_of_idle {m : Mutex} {expires : Instant} (idle : w.locks.Idle now)
    (lasting : m.Lasting now) (after : now.after? m.expiry = some expires) :
    w.locks.request now (.acquire name (.fresh w.tokens) m.expiry) =
      (.now (.ok true), (w.holding name expires).locks) := by
  apply Leases.acquire_of_undisputed idle.whole _ lasting.short after
  intro lease found live
  rw [idle.expired name lease found] at live
  cases live

theorem request_release_of_holding {m : Mutex} {expires : Instant} (idle : w.locks.Idle now)
    (lasting : m.Lasting now) (after : now.after? m.expiry = some expires) :
    (w.holding name expires).locks.request now (.release name (.fresh w.tokens)) =
      (.now (.ok true), w.locks.without name) := by
  have found : (w.holding name expires).locks.granted.get? name =
      some ⟨.fresh w.tokens, expires⟩ := by
    rw [holding, Register.get?_put, if_pos rfl]
  have kept : (w.holding name expires).locks.isBroken = false := idle.whole
  have live := Instant.lt_of_after? lasting.positive after
  refine (Leases.release_of_own kept found rfl live).trans ?_
  simp only [holding, Register.erase_put, Leases.without]

/-! ## Requests that are granted at once -/

variable [ClaimStore C] [RocketStore R]

theorem play_retried_of_granted {L : Type} [LockStore L] {m : Mutex} {r : LockRequest}
    {w : World L C R} (granted : w.replyTo r = .now (.ok true)) :
    play (r.retried m) w = (.returned (.ok ()), w.requested m.patience r) := by
  have calm : LocksAnswer (r.attempt m.patience) w := by
    unfold LocksAnswer
    rw [lockLog_attempt, granted]
    intro exchange mem
    cases List.mem_singleton.mp mem
    rfl
  have first := play_attempt calm
  have yes : (w.replyTo r).grants m.patience = true := by
    rw [granted]
    exact decide_eq_true (Nat.zero_le m.patience.milliseconds)
  rw [if_pos yes] at first
  unfold LockRequest.retried RetryPlan.retry
  cases m.retrying.limit - 1 with
  | zero =>
      exact first
  | succ left =>
      rw [RetryPlan.attemptFrom_succ, play_bind_of_returned first]
      rfl

theorem requested_of_granted (clock : w.clock = .standing now) (patience : Duration)
    {r : LockRequest} {left : Leases} (comes : w.locks.request now r = (.now (.ok true), left)) :
    w.replyTo r = .now (.ok true) ∧ w.requested patience r = { w with locks := left } := by
  have waits : (LockReply.now (.ok true)).wait patience = 0 := Nat.zero_min _
  cases r with
  | acquire name token expiry =>
      have told : LockStore.acquire name token expiry (Clock.standing now).read w.locks =
          (.now (.ok true), left) := comes
      constructor
      · rw [replyTo, clock, told]
      · simp only [requested, LockRequest.call, serve, tick, clock, Clock.tick_standing]
        rw [told, waits]
        rfl
  | release name token =>
      have told : LockStore.release name token (Clock.standing now).read w.locks =
          (.now (.ok true), left) := comes
      constructor
      · rw [replyTo, clock, told]
      · simp only [requested, LockRequest.call, serve, tick, clock, Clock.tick_standing]
        rw [told, waits]
        rfl

theorem play_retried_at_once (clock : w.clock = .standing now) {m : Mutex} {r : LockRequest}
    {left : Leases} (comes : w.locks.request now r = (.now (.ok true), left)) :
    play (r.retried m) w = (.returned (.ok ()), { w with locks := left }) := by
  rcases requested_of_granted clock m.patience comes with ⟨granted, same⟩
  rw [play_retried_of_granted granted, same]

/-! ## A procedure under the lock -/

/--
A procedure that keeps to the rockets comes under a lock that no one has to what it comes to, and
no lease is left on the lock.
-/
theorem play_exclusively_of_idle {ε α : Type} {m : Mutex} {key : String} {expires : Instant}
    {operation : Script (Except ε α)} {result : Except ε α} {left : World Leases C R}
    (idle : w.locks.Idle now) (clock : w.clock = .standing now) (lasting : m.Lasting now)
    (after : now.after? m.expiry = some expires)
    (only : operation.Only fun c => c.isOnRockets = true)
    (ran : play operation (w.holding (m.lockFor key) expires) = (.returned result, left)) :
    play (m.exclusively key operation) w =
      (.returned (.ok result), { left with locks := w.locks.without (m.lockFor key) }) := by
  have frame := play_onRockets only (w.holding (m.lockFor key) expires)
  rw [ran] at frame
  dsimp only at frame
  have still : left.clock = .standing now := by
    rw [frame]
    exact clock
  have granted : play ((LockRequest.acquire (m.lockFor key) (.fresh w.tokens) m.expiry).retried m)
      { w with tokens := w.tokens + 1 } = (.returned (.ok ()), w.holding (m.lockFor key) expires) :=
    play_retried_at_once (w := { w with tokens := w.tokens + 1 }) clock
      (request_acquire_of_idle idle lasting after)
  have released : play ((LockRequest.release (m.lockFor key) (.fresh w.tokens)).retried m) left =
      (.returned (.ok ()), { left with locks := w.locks.without (m.lockFor key) }) := by
    apply play_retried_at_once still
    have locks : left.locks = (w.holding (m.lockFor key) expires).locks := by
      rw [frame]
    rw [locks]
    exact request_release_of_holding idle lasting after
  have locked : play (m.lockedSection (m.lockFor key) (.fresh w.tokens) operation)
      (w.holding (m.lockFor key) expires) =
        (.returned (.ok result), { left with locks := w.locks.without (m.lockFor key) }) := by
    rw [m.lockedSection_eq, play_bind_of_returned (play_task _ _), ran,
      play_bind_of_returned released]
    rfl
  rw [m.exclusively_eq, play_bind_of_returned (play_newToken w), play_bind_of_returned granted,
    Mutex.proceed, m.calledSection_done, play_bind_of_returned (play_task _ _), locked]
  rfl

end World
end MissionControl
