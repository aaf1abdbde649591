import MissionControl.Lock.Leases
import MissionControl.Proofs.World.Moments

/-!
# The tenure of leases

What calls do to the leases in a world: a lock is granted only where no other bearer has a live
lease on it, and a lease is taken back only from the bearer of its token.
-/

namespace MissionControl

/-! ## The store -/

theorem LockReply.heard_now (patience : Duration) (result : Except LockFault Bool) :
    (LockReply.now result).heard patience = .returned result := by
  simp [now, heard]

namespace Leases

variable {name : String} {token : Token} {expiry : Duration} {now : Instant} {leases : Leases}

/-- What asking for a lock comes to. -/
inductive Asked (name : String) (token : Token) (reading : Outcome Instant) (leases : Leases) :
    LockReply × Leases → Prop where
  | granted {now expires : Instant} : reading = .returned now →
      (∀ lease, leases.granted.get? name = some lease → lease.isLive now = true →
        lease.token = token) →
      Asked name token reading leases
        (.now (.ok true), { leases with granted := leases.granted.put name ⟨token, expires⟩ })
  | refused {result : Except LockFault Bool} : result ≠ .ok true →
      Asked name token reading leases (.now result, leases)
  | panicked {message : String} {left : Leases} : left.granted = leases.granted →
      Asked name token reading leases (.panics message, left)

theorem asked_acquire (name : String) (token : Token) (expiry : Duration)
    (reading : Outcome Instant) (leases : Leases) :
    Asked name token reading leases (LockStore.acquire name token expiry reading leases) := by
  cases reading with
  | panicked message =>
      exact .panicked rfl
  | returned now =>
      show Asked name token _ leases (leases.acquire name token expiry now)
      unfold acquire
      split
      · exact .refused (by simp)
      · split
        · exact .refused (by simp)
        · split
          · exact .refused (by simp)
          · rename_i free
            split
            · refine .granted rfl fun lease found live => ?_
              rw [found] at free
              simpa [live] using free
            · exact .panicked rfl

theorem get?_release {other : String} {lease : Lease}
    (found : leases.granted.get? other = some lease) (apart : lease.token ≠ token) :
    (leases.release name token now).2.granted.get? other = some lease := by
  unfold release
  split
  · exact found
  · split
    · rename_i borne
      have elsewhere : other ≠ name := by
        intro same
        rw [← same, found] at borne
        simp [apart] at borne
      simpa [elsewhere] using found
    · exact found

end Leases

/-! ## The world -/

namespace World

variable {C R : Type} [ClaimStore C] [RocketStore R] {w : World Leases C R} {name : String}
  {token : Token} {expiry patience : Duration}

/-- A lock is granted where no other bearer has a live lease on it, or the leases are as before. -/
theorem served_acquire (w : World Leases C R) (name : String) (token : Token)
    (expiry patience : Duration) :
    ((w.serve (.acquire name token expiry patience)).reply = .returned (.ok true) ∧
        ∃ now expires, w.clock.read = .returned now ∧
          (∀ lease, w.locks.granted.get? name = some lease → lease.isLive now = true →
            lease.token = token) ∧
          (w.serve (.acquire name token expiry patience)).world.locks.granted =
            w.locks.granted.put name ⟨token, expires⟩) ∨
      ((w.serve (.acquire name token expiry patience)).reply ≠ .returned (.ok true) ∧
        (w.serve (.acquire name token expiry patience)).world.locks.granted =
          w.locks.granted) := by
  have asked := Leases.asked_acquire name token expiry w.clock.read w.locks
  change (((LockStore.acquire name token expiry w.clock.read w.locks).1.heard patience = _) ∧
      ∃ now expires, _ ∧ _ ∧
        (LockStore.acquire name token expiry w.clock.read w.locks).2.granted = _) ∨
    ((LockStore.acquire name token expiry w.clock.read w.locks).1.heard patience ≠ _ ∧
      (LockStore.acquire name token expiry w.clock.read w.locks).2.granted = _)
  generalize LockStore.acquire name token expiry w.clock.read w.locks = told at asked
  cases asked with
  | granted reads free =>
      left
      exact ⟨LockReply.heard_now patience _, _, _, reads, free, rfl⟩
  | refused no =>
      right
      refine ⟨?_, rfl⟩
      intro same
      rw [LockReply.heard_now] at same
      exact no (Outcome.returned.inj same)
  | panicked kept =>
      right
      refine ⟨?_, kept⟩
      intro same
      cases same

theorem get?_released {other : String} {lease : Lease}
    (found : w.locks.granted.get? other = some lease) (apart : lease.token ≠ token) :
    (w.serve (.release name token patience)).world.locks.granted.get? other = some lease := by
  show (Leases.timed w.clock.read _ w.locks).2.granted.get? other = _
  cases w.clock.read with
  | panicked message =>
      exact found
  | returned now =>
      exact Leases.get?_release found apart

end World

/-! ## Expiry -/

def Call.lock? : Call → Option String
  | acquire name _ _ _ => some name
  | release name _ _ => some name
  | _ => none

namespace Moment

variable {C R : Type}

/--
Whether a call on a lock finds no lease on it that has expired, among those that were granted for
one of the tokens handed out from some number on.
-/
def leaseLasts (since : Nat) (m : Moment Leases C R) : Bool :=
  match m.call.lock?, m.world.clock.read with
  | some name, .returned now =>
      match m.world.locks.granted.get? name with
      | some ⟨.fresh number, expires⟩ => decide (number < since ∨ now < expires)
      | _ => true
  | _, _ => true

theorem isLive_of_leaseLasts {since number : Nat} {m : Moment Leases C R} {name : String}
    {now expires : Instant} (h : m.leaseLasts since = true) (lock : m.call.lock? = some name)
    (reads : m.world.clock.read = .returned now)
    (found : m.world.locks.granted.get? name = some ⟨.fresh number, expires⟩)
    (le : since ≤ number) : now < expires := by
  unfold leaseLasts at h
  rw [lock, reads] at h
  simp only [found, decide_eq_true_eq] at h
  rcases h with early | live
  · omega
  · exact live

end Moment

end MissionControl
