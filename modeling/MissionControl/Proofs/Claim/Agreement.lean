import MissionControl.Proofs.Claim.Liveness

/-!
# Agreement on claims

Claim records are shared by all that is claimed, and swept at moments that any claim may bring on.
Two of them agree on some events if the same claims on these are live from now on.  They go on
agreeing while both are asked the same of the events, whatever either is asked of others.
-/

namespace MissionControl
namespace ClaimRecords

/-- From some time on, the claims on some events are live in the one records as in the others. -/
def Agree (on : String → Prop) (now : Instant) (a b : ClaimRecords) : Prop :=
  ∀ eventId, on eventId → ∀ later, now ≤ later →
    a.liveAt later eventId = b.liveAt later eventId

theorem liveAt_claim_of_ne {eventId other : String} {now later : Instant} (apart : other ≠ eventId)
    (le : now ≤ later) (retention : Duration) (records : ClaimRecords) :
    (records.claim eventId retention now).2.liveAt later other = records.liveAt later other := by
  have claimed := claimed_claim eventId retention now records
  generalize (records.claim eventId retention now).1 = outcome at claimed
  generalize (records.claim eventId retention now).2 = left at claimed ⊢
  cases claimed with
  | failed none =>
      rfl
  | refused live =>
      exact liveAt_sweep other records le
  | granted free after =>
      rw [liveAt_record, if_neg apart]
      exact liveAt_sweep other records le

namespace Agree

variable {on : String → Prop} {now : Instant} {a b : ClaimRecords} {eventId : String}

theorem later (h : Agree on now a b) {later : Instant} (le : now ≤ later) : Agree on later a b := by
  intro other mem last le'
  exact h other mem last (Instant.le_trans le le')

theorem sweep (h : Agree on now a b) : Agree on now (a.sweep now) (b.sweep now) := by
  intro other mem later le
  rw [liveAt_sweep other a le, liveAt_sweep other b le, h other mem later le]

theorem record (h : Agree on now a b) (eventId : String) (expiry : Instant) :
    Agree on now (a.record eventId expiry) (b.record eventId expiry) := by
  intro other mem later le
  rw [liveAt_record, liveAt_record, h other mem later le]

theorem isLive (h : Agree on now a b) (mem : on eventId) :
    a.isLive eventId now = b.isLive eventId now := by
  rw [isLive_eq_isSome_liveAt, isLive_eq_isSome_liveAt, h eventId mem now (Instant.le_refl now)]

theorem forget (h : Agree on now a b) (eventId : String) :
    Agree on now (a.forget eventId) (b.forget eventId) := by
  intro other mem later le
  rw [liveAt_forget, liveAt_forget, h other mem later le]

theorem forget_elsewhere (h : Agree on now a b) (apart : ¬on eventId) :
    Agree on now (a.forget eventId) b := by
  intro other mem later le
  rw [liveAt_forget, if_neg, h other mem later le]
  intro same
  exact apart (same ▸ mem)

theorem claim_elsewhere (h : Agree on now a b) (apart : ¬on eventId) (retention : Duration) :
    Agree on now (a.claim eventId retention now).2 b := by
  intro other mem later le
  have ne : other ≠ eventId := by
    intro same
    exact apart (same ▸ mem)
  rw [liveAt_claim_of_ne ne le, h other mem later le]

theorem claim (h : Agree on now a b) (mem : on eventId) (retention : Duration) :
    (a.claim eventId retention now).1 = (b.claim eventId retention now).1 ∧
      Agree on now (a.claim eventId retention now).2 (b.claim eventId retention now).2 := by
  unfold ClaimRecords.claim
  cases expiry retention now with
  | panicked message =>
      exact ⟨rfl, h⟩
  | returned result =>
      cases result with
      | error cause =>
          exact ⟨rfl, h⟩
      | ok expires =>
          simp only [isLive_sweep, h.isLive mem]
          split
          · exact ⟨rfl, h.sweep⟩
          · exact ⟨rfl, h.sweep.record eventId expires⟩

end Agree
end ClaimRecords
end MissionControl
