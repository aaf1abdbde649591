import MissionControl.Proofs.Delivery.Course
import MissionControl.Proofs.Lock.Debts
import MissionControl.Proofs.Lock.Tenure
import MissionControl.Proofs.Lock.Undisputed
import MissionControl.Proofs.Pool.Stages

/-!
# Pools that keep no lease

Under any schedule of honest scripts, on a clock that never goes back, some task owes every lease
that is live.  Once all tasks have ended none is left to owe one, so whoever comes next finds every
lock free.
-/

namespace MissionControl

namespace Supply

/-- A clock that never goes back, and from whose readings on two durations pass. -/
structure Regular (expiry retention : Duration) (readings : Supply Instant) : Prop where
  rising : readings.Rising
  leases : ∀ n, expiry.Passes (readings n)
  claims : ∀ n, retention.Passes (readings n)

variable {expiry retention : Duration} {readings : Supply Instant}

theorem Regular.drop (h : readings.Regular expiry retention) (taken : Nat) :
    (readings.drop taken).Regular expiry retention := by
  constructor
  · intro n
    have next := h.rising (n + taken)
    rwa [Nat.add_right_comm] at next
  · intro n
    exact h.leases (n + taken)
  · intro n
    exact h.claims (n + taken)

theorem Rising.isLive {lease : Lease} (rising : readings.Rising) {m n : Nat} (le : m ≤ n)
    (live : lease.isLive (readings n) = true) : lease.isLive (readings m) = true :=
  decide_eq_true (Instant.lt_of_le_of_lt (rising.le le) (of_decide_eq_true live))

end Supply

/-! ## Calls that return -/

namespace World

variable {w : World Leases ClaimRecords Fleet} {now : Instant} {c : Call}

theorem exists_reply_of_isPlain (plain : c.isPlain = true) (reads : w.clock.read = .returned now) :
    ∃ value, (w.serve c).reply = .returned value := by
  cases c with
  | acquire name token expiry patience =>
      cases plain
  | claim eventId retention =>
      cases plain
  | moveClock milliseconds =>
      cases plain
  | release name token patience =>
      have released := Leases.released_release name token now w.locks
      show ∃ value, (Leases.timed w.clock.read _ w.locks).1.heard patience = _
      rw [reads]
      change ∃ value, (w.locks.release name token now).1.heard patience = _
      generalize w.locks.release name token now = told at released ⊢
      cases released <;> exact ⟨_, LockReply.heard_now patience _⟩
  | _ =>
      exact ⟨_, rfl⟩

theorem going_serve {readings : Supply Instant} {taken : Nat} (leaves : c.movesClock = false)
    (clock : w.clock = .going (readings.drop taken)) :
    ∃ more, taken ≤ more ∧ (w.serve c).world.clock = .going (readings.drop more) := by
  rcases clock_serve leaves w with same | ticked
  · exact ⟨taken, Nat.le_refl taken, same.trans clock⟩
  · refine ⟨taken + 1, Nat.le_succ taken, ?_⟩
    rw [ticked, clock, ← Supply.after_drop]
    rfl

theorem read_of_going {readings : Supply Instant} {taken : Nat}
    (clock : w.clock = .going (readings.drop taken)) :
    w.clock.read = .returned (readings taken) := by
  rw [clock]
  show Outcome.returned (readings (0 + taken)) = _
  rw [Nat.zero_add]

theorem within_serve (w : World Leases ClaimRecords Fleet)
    (other : ∀ name token expiry patience, c ≠ .acquire name token expiry patience) :
    (w.serve c).world.locks.Within w.locks := by
  cases c with
  | acquire name token expiry patience =>
      exact absurd rfl (other name token expiry patience)
  | release name token patience =>
      show (Leases.timed w.clock.read _ w.locks).2.Within w.locks
      cases w.clock.read with
      | panicked message =>
          exact .refl w.locks
      | returned now =>
          exact Leases.within_release name token now w.locks
  | moveClock milliseconds =>
      have kept := locks_moveClock milliseconds w
      show (w.moveClock milliseconds).2.locks.Within w.locks
      rw [kept]
      exact .refl w.locks
  | _ =>
      exact .refl w.locks

end World

/-! ## One call of an honest script -/

theorem Script.Owes.not_isOver {α : Type} {s : Script α} {name : String} {token : Token}
    (h : s.Owes name token) : ¬s.isOver = true := by
  intro ended
  cases h <;> cases ended

namespace Script.Honest

variable {α : Type} {expiry retention : Duration} {c : Call} {next : Outcome c.Reply → Script α}
  {w : World Leases ClaimRecords Fleet} {now : Instant}

theorem leavesClock (h : (Script.call c next).Honest expiry retention) : c.movesClock = false := by
  cases h with
  | asks rest owes =>
      rfl
  | claims rest =>
      rfl
  | goes plain rest =>
      cases c <;> first | rfl | cases plain

/-- The call of an honest script returns, and the script is honest afterwards. -/
theorem served (h : (Script.call c next).Honest expiry retention)
    (whole : w.locks.isBroken = false) (reads : w.clock.read = .returned now)
    (leases : expiry.Passes now) (claims : retention.Passes now) :
    ∃ value, (w.serve c).reply = .returned value ∧
      (next (.returned value)).Honest expiry retention ∧
      (w.serve c).world.locks.isBroken = false := by
  cases h with
  | @asks name token patience _ rest owes =>
      rcases w.locks.acquire_of_passes name token whole leases with ⟨granted, left, comes, kept⟩
      have told : LockStore.acquire name token expiry w.clock.read w.locks =
          (.now (.ok granted), left) := by
        rw [reads]
        exact comes
      refine ⟨.ok granted, ?_, rest _, ?_⟩
      · show (LockStore.acquire name token expiry w.clock.read w.locks).1.heard patience = _
        rw [told]
        exact LockReply.heard_now patience _
      · show (LockStore.acquire name token expiry w.clock.read w.locks).2.isBroken = false
        rw [told]
        exact kept
  | @claims eventId _ rest =>
      refine ⟨.ok !(w.claims.isLive eventId now), ?_, rest _, whole⟩
      rw [World.serve_claim reads]
      exact ClaimRecords.claim_of_passes claims eventId w.claims
  | goes plain rest =>
      rcases World.exists_reply_of_isPlain plain reads with ⟨value, told⟩
      refine ⟨value, told, rest value, ?_⟩
      refine (w.within_serve ?_).broken.trans whole
      rintro name token expiry patience rfl
      cases plain

/-- A lease that is live after a call is owed by the caller, or was there and was not. -/
theorem owed (h : (Script.call c next).Honest expiry retention)
    (whole : w.locks.isBroken = false) (reads : w.clock.read = .returned now)
    {value : c.Reply} (told : (w.serve c).reply = .returned value) {name : String} {lease : Lease}
    (found : (w.serve c).world.locks.granted.get? name = some lease)
    (live : lease.isLive now = true) :
    (next (.returned value)).Owes name lease.token ∨
      (w.locks.granted.get? name = some lease ∧
        ¬(Script.call c next).Owes name lease.token) := by
  by_cases owes : (Script.call c next).Owes name lease.token
  · left
    cases owes with
    | @pays patience _ =>
        have before := (w.within_serve (c := .release name lease.token patience)
          (by intros; exact Call.noConfusion)).among name lease found
        have gone := Leases.get?_release_of_own whole before live
        change (Leases.timed w.clock.read _ w.locks).2.granted.get? name = _ at found
        rw [reads] at found
        exact absurd (found.symm.trans gone) (by simp)
    | goes rest =>
        exact rest value
  · cases h with
    | @asks asked token patience _ rest lets =>
        rcases w.served_acquire asked token expiry patience with
          ⟨granted, _, _, _, _, put⟩ | ⟨_, kept⟩
        · rw [put, Register.get?_put] at found
          split at found
          · rename_i same
            cases found
            rw [granted] at told
            cases told
            subst same
            exact .inl lets
          · exact .inr ⟨found, owes⟩
        · rw [kept] at found
          exact .inr ⟨found, owes⟩
    | claims rest =>
        exact .inr ⟨found, owes⟩
    | goes plain rest =>
        refine .inr ⟨(w.within_serve ?_).among name lease found, owes⟩
        rintro name token expiry patience rfl
        cases plain

end Script.Honest

/-! ## Any schedule -/

namespace Pool

variable {α : Type} {expiry retention : Duration} {readings : Supply Instant}

/-- Some task owes every lease that is live, and the clock only had readings taken from it. -/
structure Accounted (expiry retention : Duration) (readings : Supply Instant)
    (pool : Pool Leases ClaimRecords Fleet α) : Prop where
  clock : ∃ taken, pool.world.clock = .going (readings.drop taken)
  whole : pool.world.locks.isBroken = false
  honest : ∀ index s, pool.script? index = some s → s.Honest expiry retention
  owed : ∀ now, pool.world.clock.read = .returned now → ∀ name lease,
    pool.world.locks.granted.get? name = some lease → lease.isLive now = true →
      ∃ index s, pool.script? index = some s ∧ s.Owes name lease.token

theorem accounted_start {w : World Leases ClaimRecords Fleet} {scripts : List (Script α)}
    (clock : w.clock = .going readings) (idle : w.locks.Idle readings.first)
    (honest : ∀ s ∈ scripts, s.Honest expiry retention) :
    Accounted expiry retention readings (.start w scripts) := by
  constructor
  · exact ⟨0, clock⟩
  · exact idle.whole
  · intro index s script
    rw [script?_start] at script
    exact honest s (List.mem_of_getElem? script)
  · intro now reads name lease found live
    have first : now = readings.first := by
      change w.clock.read = _ at reads
      rw [clock] at reads
      exact (Outcome.returned.inj reads).symm
    rw [first, idle.expired name lease found] at live
    cases live

namespace Accounted

variable {pool : Pool Leases ClaimRecords Fleet α}

theorem step (h : pool.Accounted expiry retention readings)
    (regular : readings.Regular expiry retention) (index : Nat) :
    (pool.step index).Accounted expiry retention readings := by
  cases here : pool.moment? index with
  | none =>
      rw [step_of_moment?_eq_none here]
      exact h
  | some m =>
      rcases exists_of_moment? here with ⟨next, script, _⟩
      rcases h.clock with ⟨taken, clock⟩
      have reads := World.read_of_going clock
      have honest := h.honest index _ script
      rcases honest.served h.whole reads (regular.leases _) (regular.claims _) with
        ⟨value, told, after, kept⟩
      rcases World.going_serve honest.leavesClock clock with ⟨more, le, going⟩
      constructor
      · rw [world_step script]
        exact ⟨more, going⟩
      · rw [world_step script]
        exact kept
      · intro other s left
        rw [script?_step script, told] at left
        split at left
        · cases left
          exact after
        · exact h.honest other s left
      · intro now reading name lease found live
        rw [world_step script] at reading found
        cases (World.read_of_going going).symm.trans reading
        -- the clock did not go back, so the lease was live before the call too
        have before := regular.rising.isLive le live
        rcases honest.owed h.whole reads told found before with owes | ⟨stood, unowed⟩
        · refine ⟨index, next (.returned value), ?_, owes⟩
          rw [script?_step script, told, if_pos rfl]
        · rcases h.owed _ reads name lease stood before with ⟨other, s, left, owes⟩
          refine ⟨other, s, ?_, owes⟩
          rw [script?_step script, if_neg]
          · exact left
          · rintro rfl
            rw [script] at left
            cases left
            exact unowed owes

theorem play (h : pool.Accounted expiry retention readings)
    (regular : readings.Regular expiry retention) (schedule : List Nat) :
    (pool.playSchedule schedule).Accounted expiry retention readings := by
  induction schedule generalizing pool with
  | nil =>
      exact h
  | cons index rest ih =>
      exact ih (h.step regular index)

/-- Where all tasks have ended, no lease is live. -/
theorem idle (h : pool.Accounted expiry retention readings)
    (ended : ∀ task ∈ pool.tasks, task.outcome?.isSome = true) {now : Instant}
    (reads : pool.world.clock.read = .returned now) : pool.world.locks.Idle now := by
  constructor
  · exact h.whole
  · intro name lease found
    cases live : lease.isLive now with
    | false =>
        rfl
    | true =>
        rcases h.owed now reads name lease found live with ⟨index, s, script, owes⟩
        exact absurd (isOver_of_ended ended script) owes.not_isOver

end Accounted
end Pool
end MissionControl
