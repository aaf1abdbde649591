import Mathlib.Logic.Function.Basic
import MissionControl.Proofs.Claim.Liveness

/-!
# Holders of claims

Claim records do not say who made a claim.  As long as whoever drops the claim on an event does so
before its own claim has expired, at most one holder has a claim that has not expired, and the
record of the event is that claim.
-/

namespace MissionControl

/-- The record of an event is the one claim on it that has not expired, if there is any. -/
structure ClaimRecords.Tracks (eventId : String) (records : ClaimRecords)
    (holds : Nat → Option Instant) (now : Instant) : Prop where
  recorded : ∀ i expiry, holds i = some expiry → now < expiry →
    records.expiries.get? eventId = some expiry
  single : ∀ i j one other, holds i = some one → holds j = some other → now < one →
    now < other → i = j

namespace ClaimRecords.Tracks

variable {eventId : String} {records : ClaimRecords} {holds : Nat → Option Instant}
  {now : Instant}

theorem start (eventId : String) (records : ClaimRecords) (now : Instant) :
    records.Tracks eventId (fun _ => none) now := by
  constructor
  · intro i expiry held
    cases held
  · intro i j one other held
    cases held

theorem isLive (h : records.Tracks eventId holds now) {i : Nat} {expiry : Instant}
    (held : holds i = some expiry) (live : now < expiry) : records.isLive eventId now = true := by
  unfold ClaimRecords.isLive
  rw [h.recorded i expiry held live]
  exact decide_eq_true live

theorem later (h : records.Tracks eventId holds now) {later : Instant} (le : now ≤ later) :
    records.Tracks eventId holds later := by
  have still {expiry : Instant} (live : later < expiry) : now < expiry := by
    rw [← Instant.not_le] at live ⊢
    intro expired
    exact live (Instant.le_trans expired le)
  constructor
  · intro i expiry held live
    exact h.recorded i expiry held (still live)
  · intro i j one other heldOne heldOther liveOne liveOther
    exact h.single i j one other heldOne heldOther (still liveOne) (still liveOther)

theorem sweep (h : records.Tracks eventId holds now) :
    (records.sweep now).Tracks eventId holds now := by
  constructor
  · intro i expiry held live
    exact get?_sweep (h.recorded i expiry held live) live
  · exact h.single

/-! ## Calls for other events -/

theorem record_other (h : records.Tracks eventId holds now) {other : String}
    (apart : other ≠ eventId) (expiry : Instant) :
    (records.record other expiry).Tracks eventId holds now := by
  constructor
  · intro i due held live
    rw [get?_record, if_neg apart.symm]
    exact h.recorded i due held live
  · exact h.single

theorem forget_other (h : records.Tracks eventId holds now) {other : String}
    (apart : other ≠ eventId) : (records.forget other).Tracks eventId holds now := by
  constructor
  · intro i expiry held live
    rw [forget, Register.get?_erase, if_neg apart.symm]
    exact h.recorded i expiry held live
  · exact h.single

/-! ## Calls for the event -/

theorem granted (h : records.Tracks eventId holds now) (free : records.isLive eventId now = false)
    (index : Nat) (expiry : Instant) :
    ((records.sweep now).record eventId expiry).Tracks eventId
      (Function.update holds index (some expiry)) now := by
  have expired {i : Nat} {due : Instant} (held : holds i = some due) : ¬now < due := by
    intro live
    rw [h.isLive held live] at free
    cases free
  have own {i : Nat} {due : Instant} (held : Function.update holds index (some expiry) i = some due)
      (live : now < due) : i = index ∧ due = expiry := by
    by_cases here : i = index
    · rw [here, Function.update_self] at held
      exact ⟨here, (Option.some.inj held).symm⟩
    · rw [Function.update_of_ne here] at held
      exact absurd live (expired held)
  constructor
  · intro i due held live
    rw [get?_record, if_pos rfl, (own held live).2]
  · intro i j one other heldOne heldOther liveOne liveOther
    exact (own heldOne liveOne).1.trans (own heldOther liveOther).1.symm

/-- Whoever drops a claim before it has expired drops the only one. -/
theorem dropped (h : records.Tracks eventId holds now) {index : Nat} {expiry : Instant}
    (held : holds index = some expiry) (live : now < expiry) :
    (records.forget eventId).Tracks eventId (Function.update holds index none) now := by
  have expired {i : Nat} {due : Instant} (still : Function.update holds index none i = some due) :
      ¬now < due := by
    intro dueLive
    by_cases here : i = index
    · rw [here, Function.update_self] at still
      cases still
    · rw [Function.update_of_ne here] at still
      exact here (h.single i index due expiry still held dueLive live)
  constructor
  · intro i due still dueLive
    exact absurd dueLive (expired still)
  · intro i j one other stillOne _ liveOne
    exact absurd liveOne (expired stillOne)

end ClaimRecords.Tracks
end MissionControl
