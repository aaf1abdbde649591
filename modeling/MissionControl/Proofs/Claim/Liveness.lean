import MissionControl.Claim.Records
import MissionControl.Proofs.Time.Distance

/-!
# Live claims

A claim that has not expired keeps others out, and no answer depends on one that has.  Sweeping
takes nothing live away, and claiming an event says exactly what becomes of the records.
-/

namespace MissionControl
namespace ClaimRecords

def liveAt (now : Instant) (eventId : String) (records : ClaimRecords) : Option Instant :=
  (records.expiries.get? eventId).filter fun expiry => now < expiry

theorem isLive_eq_isSome_liveAt (eventId : String) (now : Instant) (records : ClaimRecords) :
    records.isLive eventId now = (records.liveAt now eventId).isSome := by
  unfold isLive liveAt
  cases records.expiries.get? eventId with
  | none =>
      rfl
  | some expiry =>
      by_cases h : now < expiry <;> simp [Option.filter, h]

/-! ## Sweeping -/

theorem get?_sweep {now expiry : Instant} {eventId : String} {records : ClaimRecords}
    (h : records.expiries.get? eventId = some expiry) (live : now < expiry) :
    (records.sweep now).expiries.get? eventId = some expiry := by
  unfold sweep
  split
  · simp [h, live]
  · exact h

theorem liveAt_sweep {now later : Instant} (eventId : String) (records : ClaimRecords)
    (h : now ≤ later) :
    (records.sweep now).liveAt later eventId = records.liveAt later eventId := by
  unfold sweep
  split
  · unfold liveAt
    rw [Register.get?_keep, Option.filter_filter]
    cases records.expiries.get? eventId with
    | none =>
        rfl
    | some expiry =>
        have still (live : later < expiry) : now < expiry := by
          rw [← Instant.not_le] at live ⊢
          exact fun expired => live (Instant.le_trans expired h)
        by_cases live : later < expiry
        · simp [Option.filter, live, still live]
        · simp [Option.filter, live]
  · rfl

theorem isLive_sweep (eventId : String) (now : Instant) (records : ClaimRecords) :
    (records.sweep now).isLive eventId now = records.isLive eventId now := by
  rw [isLive_eq_isSome_liveAt, liveAt_sweep _ _ (Instant.le_refl now), ← isLive_eq_isSome_liveAt]

/-! ## Recording and forgetting -/

theorem liveAt_eq_none {now later : Instant} {eventId : String} {records : ClaimRecords}
    (h : records.isLive eventId now = false) (le : now ≤ later) :
    records.liveAt later eventId = none := by
  unfold isLive at h
  unfold liveAt
  cases found : records.expiries.get? eventId with
  | none =>
      rfl
  | some expiry =>
      rw [found] at h
      have expired : expiry ≤ now := Instant.not_lt.mp (by simpa using h)
      have still : ¬later < expiry := Instant.not_lt.mpr (Instant.le_trans expired le)
      simp [Option.filter, still]

theorem get?_record (eventId other : String) (expiry : Instant) (records : ClaimRecords) :
    (records.record eventId expiry).expiries.get? other =
      if other = eventId then some expiry else records.expiries.get? other := by
  simp only [record, Register.get?_put]

theorem liveAt_record (eventId other : String) (expiry later : Instant) (records : ClaimRecords) :
    (records.record eventId expiry).liveAt later other =
      if other = eventId then (some expiry).filter fun expiry => later < expiry
      else records.liveAt later other := by
  unfold liveAt
  rw [get?_record]
  split <;> rfl

theorem liveAt_forget (eventId other : String) (later : Instant) (records : ClaimRecords) :
    (records.forget eventId).liveAt later other =
      if other = eventId then none else records.liveAt later other := by
  unfold liveAt forget
  rw [Register.get?_erase]
  split <;> rfl

theorem liveAt_forget_record (eventId other : String) (expiry later : Instant)
    (records : ClaimRecords) :
    ((records.record eventId expiry).forget eventId).liveAt later other =
      if other = eventId then none else records.liveAt later other := by
  unfold liveAt
  simp only [forget, record, Register.get?_erase, Register.get?_put]
  by_cases same : other = eventId <;> simp [same]

/-! ## Claiming -/

/-- What a claim comes to. -/
inductive Claimed (eventId : String) (retention : Duration) (now : Instant)
    (records : ClaimRecords) : Outcome (Except ClaimFault Bool) → ClaimRecords → Prop where
  /-- The retention gives no time at which the claim would expire. -/
  | failed {outcome : Outcome (Except ClaimFault Bool)} :
      (∀ granted, outcome ≠ .returned (.ok granted)) →
      Claimed eventId retention now records outcome records
  | refused : records.isLive eventId now = true →
      Claimed eventId retention now records (.returned (.ok false)) (records.sweep now)
  | granted {expiry : Instant} : records.isLive eventId now = false →
      now.after? retention = some expiry →
      Claimed eventId retention now records (.returned (.ok true))
        ((records.sweep now).record eventId expiry)

theorem claimed_claim (eventId : String) (retention : Duration) (now : Instant)
    (records : ClaimRecords) :
    Claimed eventId retention now records (records.claim eventId retention now).1
      (records.claim eventId retention now).2 := by
  unfold claim
  cases told : expiry retention now with
  | panicked message =>
      refine .failed fun granted same => ?_
      cases same
  | returned result =>
      cases result with
      | error cause =>
          refine .failed fun granted same => ?_
          cases same
      | ok expiry =>
          have after : now.after? retention = some expiry := by
            unfold ClaimRecords.expiry at told
            split at told
            · cases told
            · split at told
              · cases told
                assumption
              · cases told
          by_cases live : records.isLive eventId now = true
          · simp only [isLive_sweep, live, if_true]
            exact .refused live
          · rw [Bool.not_eq_true] at live
            simp only [isLive_sweep, live, Bool.false_eq_true, if_false]
            exact .granted live after

theorem claim_of_isLive {eventId : String} {now : Instant} {records : ClaimRecords}
    (live : records.isLive eventId now = true) (retention : Duration) :
    (records.claim eventId retention now).1 =
      (expiry retention now).map (Except.map fun _ => false) := by
  unfold claim
  cases expiry retention now with
  | panicked message =>
      rfl
  | returned result =>
      cases result with
      | error cause =>
          rfl
      | ok expiry =>
          simp only [isLive_sweep, live, if_true]
          rfl

theorem expiry_of_passes {retention : Duration} {now : Instant} (passes : retention.Passes now) :
    ∃ expires, now.after? retention = some expires ∧
      expiry retention now = .returned (.ok expires) := by
  rcases Option.isSome_iff_exists.mp passes.tellable with ⟨expires, after⟩
  refine ⟨expires, after, ?_⟩
  unfold expiry
  rw [if_neg (Nat.not_lt.mpr passes.short), after]

theorem claim_of_passes {retention : Duration} {now : Instant} (passes : retention.Passes now)
    (eventId : String) (records : ClaimRecords) :
    (records.claim eventId retention now).1 =
      .returned (.ok !(records.isLive eventId now)) := by
  rcases expiry_of_passes passes with ⟨expires, _, told⟩
  unfold claim
  rw [told]
  simp only [isLive_sweep]
  cases records.isLive eventId now <;> rfl

theorem Claimed.liveAt {eventId : String} {retention : Duration} {now later : Instant}
    {records left : ClaimRecords} {outcome : Outcome (Except ClaimFault Bool)}
    (claimed : Claimed eventId retention now records outcome left)
    (refused : outcome ≠ .returned (.ok true)) (le : now ≤ later) (other : String) :
    left.liveAt later other = records.liveAt later other := by
  cases claimed with
  | failed none =>
      rfl
  | refused live =>
      exact liveAt_sweep other records le
  | granted free after =>
      exact absurd rfl refused

theorem Claimed.liveAt_forget {eventId : String} {retention : Duration} {now later : Instant}
    {records left : ClaimRecords}
    (claimed : Claimed eventId retention now records (.returned (.ok true)) left)
    (le : now ≤ later) (other : String) :
    (left.forget eventId).liveAt later other = records.liveAt later other := by
  cases claimed with
  | failed none =>
      exact absurd rfl (none true)
  | granted free after =>
      rw [liveAt_forget_record]
      split
      · rename_i same
        rw [same, liveAt_eq_none free le]
      · exact liveAt_sweep other records le

end ClaimRecords
end MissionControl
