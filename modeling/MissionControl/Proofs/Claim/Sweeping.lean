import MissionControl.Proofs.Claim.Ledger

/-!
# Sweeping

Expired claims do not pile up.  What is on record right after a write expired less than a second
ago, if at all, and nothing is swept out before it expires.  Only a leap second next to midnight is
not counted between two sweeps; then what is on record expired less than three seconds ago.
-/

namespace MissionControl

/-! ## Counting back -/

namespace Instant

def before? (t : Instant) (d : Duration) : Option Instant :=
  t.shift? (-d.nanoseconds)

/-- In a leap second that is at most two seconds away from midnight. -/
def LeapsByMidnight (t : Instant) : Prop :=
  1000000000 ≤ t.nanosecond ∧ (86398 ≤ t.secondOfDay ∨ t.secondOfDay ≤ 1)

instance (t : Instant) : Decidable t.LeapsByMidnight :=
  inferInstanceAs (Decidable (_ ∧ _))

theorem elapsed_self (t : Instant) : elapsed t t = 0 := by
  unfold elapsed
  simp

theorem eq_of_before? {t u : Instant} {seconds : Nat} (bounded : t.nanosecond < 2000000000)
    (lasting : 0 < seconds) (h : t.before? (.ofSeconds seconds) = some u) :
    u = if 1000000000 ≤ t.nanosecond then ⟨t.second + 1 - seconds, t.nanosecond - 1000000000⟩
      else ⟨t.second - seconds, t.nanosecond⟩ := by
  have whole : -(((Duration.ofSeconds seconds).nanoseconds : Nat) : Int) =
      -(seconds : Int) * 1000000000 := by
    unfold Duration.ofSeconds
    dsimp only
    omega
  unfold before? shift? at h
  rw [whole, Int.mul_tdiv_cancel _ (by decide), Int.mul_tmod_left] at h
  rw [if_neg (by omega)] at h
  by_cases leap : 1000000000 ≤ t.nanosecond
  · rw [if_pos leap, eq_of_within? h, mk.injEq]
    simp only [leap, true_and, if_true]
    omega
  · rw [if_neg leap, eq_of_within? h, mk.injEq]
    simp only [leap, false_and, if_false]
    omega

/-- Where less than a second is measured, less than one passed, unless a leap second was lost. -/
theorem before?_second_lt {swept now u : Instant}
    (sweptBounded : swept.nanosecond < 2000000000) (nowBounded : now.nanosecond < 2000000000)
    (short : elapsed swept now < 1000000000)
    (sweptRegular : swept.LeapsByMidnight → swept.second + 2 < now.second)
    (nowRegular : ¬now.LeapsByMidnight) (back : now.before? (.ofSeconds 1) = some u) :
    u < swept := by
  unfold elapsed at short
  unfold LeapsByMidnight at sweptRegular nowRegular
  unfold secondOfDay at *
  rw [eq_of_before? nowBounded (by decide) back, lt_iff]
  -- a leap second is lost only across midnight, and then the later instant is two seconds away
  split
  · split at short <;> dsimp only at * <;> omega
  · split at short <;> dsimp only at * <;> omega

theorem before?_three_seconds_lt {swept now u : Instant}
    (sweptBounded : swept.nanosecond < 2000000000) (nowBounded : now.nanosecond < 2000000000)
    (short : elapsed swept now < 1000000000) (back : now.before? (.ofSeconds 3) = some u) :
    u < swept := by
  unfold elapsed secondOfDay at short
  rw [eq_of_before? nowBounded (by decide) back, lt_iff]
  split
  · split at short <;> dsimp only at * <;> omega
  · split at short <;> dsimp only at * <;> omega

end Instant

/-! ## The last sweep -/

/-- The answer to a write that was made, or to a claim that was not granted. -/
def ClaimAnswer.succeeded : ClaimAnswer → Bool
  | marked (.returned (.ok _)) => true
  | granted (.returned (.ok _)) => true
  | _ => false

namespace ClaimRecords

/-- The last sweep was made at one of some readings, and no record expires before it. -/
structure Tidy (readings : List Instant) (records : ClaimRecords) (now : Instant) : Prop where
  known : records.swept ∈ readings
  past : records.swept ≤ now
  fresh : ∀ eventId expiry, records.expiries.get? eventId = some expiry → records.swept ≤ expiry

theorem elapsed_sweep (now : Instant) (records : ClaimRecords) :
    Instant.elapsed (records.sweep now).swept now < sweepPause.nanoseconds := by
  unfold sweep
  split
  · dsimp only
    rw [Instant.elapsed_self]
    decide
  · exact Int.not_le.mp ‹_›

namespace Tidy

variable {readings : List Instant} {records : ClaimRecords} {now : Instant}

theorem start (mem : now ∈ readings) : Tidy readings (.start now) now where
  known := mem
  past := Instant.le_refl now
  fresh eventId expiry found := by cases found

theorem later (h : Tidy readings records now) {later : Instant} (le : now ≤ later) :
    Tidy readings records later where
  known := h.known
  past := Instant.le_trans h.past le
  fresh := h.fresh

theorem sweep (h : Tidy readings records now) (mem : now ∈ readings) :
    Tidy readings (records.sweep now) now := by
  unfold ClaimRecords.sweep
  split
  · refine ⟨mem, Instant.le_refl now, ?_⟩
    intro eventId expiry found
    rw [Register.get?_keep] at found
    exact Instant.le_of_lt (of_decide_eq_true (Option.filter_eq_some_iff.mp found).2)
  · exact h

theorem record (h : Tidy readings records now) (eventId : String) {expiry : Instant}
    (le : now ≤ expiry) : Tidy readings (records.record eventId expiry) now := by
  refine ⟨h.known, h.past, ?_⟩
  intro other held found
  rw [get?_record] at found
  split at found
  · cases found
    exact Instant.le_trans h.past le
  · exact h.fresh other held found

theorem forget (h : Tidy readings records now) (eventId : String) :
    Tidy readings (records.forget eventId) now := by
  refine ⟨h.known, h.past, ?_⟩
  intro other held found
  rw [ClaimRecords.forget, Register.get?_erase] at found
  split at found
  · cases found
  · exact h.fresh other held found

/-- A request keeps records tidy, and one that succeeds comes less than a second after a sweep. -/
theorem serve (h : Tidy readings records now) (mem : now ∈ readings) (request : ClaimRequest) :
    Tidy readings (records.serve now request).2 now ∧
      ((records.serve now request).1.succeeded = true →
        Instant.elapsed (records.serve now request).2.swept now < sweepPause.nanoseconds) := by
  have failed {P : Prop} (h : false = true) : P := absurd h Bool.false_ne_true
  cases request with
  | isClaimed eventId =>
      refine ⟨?_, failed⟩
      simp only [ClaimRecords.serve, isClaimed]
      split
      · exact h
      · exact h.forget eventId
  | mark eventId retention =>
      unfold ClaimRecords.serve mark
      rcases expiry_eq_or retention now with
        ⟨fault, told, _⟩ | ⟨message, told, _⟩ | ⟨expires, after, told, _⟩
      · simp only [told]
        exact ⟨h, failed⟩
      · simp only [told]
        exact ⟨h, failed⟩
      · simp only [told]
        exact ⟨(h.sweep mem).record eventId (Instant.le_of_after? after),
          fun _ => elapsed_sweep now records⟩
  | claim eventId retention =>
      unfold ClaimRecords.serve claim
      rcases expiry_eq_or retention now with
        ⟨fault, told, _⟩ | ⟨message, told, _⟩ | ⟨expires, after, told, _⟩
      · simp only [told]
        exact ⟨h, failed⟩
      · simp only [told]
        exact ⟨h, failed⟩
      · simp only [told]
        split
        · -- a claim that is not granted sweeps all the same
          exact ⟨h.sweep mem, fun _ => elapsed_sweep now records⟩
        · exact ⟨(h.sweep mem).record eventId (Instant.le_of_after? after),
            fun _ => elapsed_sweep now records⟩
  | forget eventId =>
      exact ⟨h.forget eventId, failed⟩

end Tidy

/-! ## Runs -/

def servedAll (records : ClaimRecords) (requests : List (Instant × ClaimRequest)) :
    ClaimRecords :=
  requests.foldl (fun records timed => (records.serve timed.1 timed.2).2) records

end ClaimRecords

def ClaimLedger.servedAll (ledger : ClaimLedger) (requests : List (Instant × ClaimRequest)) :
    ClaimLedger :=
  requests.foldl (fun ledger timed => (ClaimLedger.serve timed.1 ledger timed.2).2) ledger

namespace ClaimRecords

variable {readings : List Instant} {records : ClaimRecords} {ledger : ClaimLedger}
  {now last : Instant} {requests : List (Instant × ClaimRequest)}

theorem Tidy.servedAll (h : Tidy readings records now)
    (rising : List.IsChain (· ≤ ·) (now :: (requests.map (·.1) ++ [last])))
    (among : ∀ timed ∈ requests, timed.1 ∈ readings) :
    Tidy readings (records.servedAll requests) last := by
  induction requests generalizing records now with
  | nil =>
      exact h.later (List.isChain_cons_cons.mp rising).1
  | cons timed rest ih =>
      rcases List.isChain_cons_cons.mp rising with ⟨le, rising⟩
      rcases List.forall_mem_cons.mp among with ⟨mem, among⟩
      exact ih ((h.later le).serve mem timed.2).1 rising among

theorem Mirrors.servedAll (h : records.Mirrors ledger now)
    (rising : List.IsChain (· ≤ ·) (now :: (requests.map (·.1) ++ [last]))) :
    (records.servedAll requests).Mirrors (ledger.servedAll requests) last := by
  induction requests generalizing records ledger now with
  | nil =>
      exact h.later (List.isChain_cons_cons.mp rising).1
  | cons timed rest ih =>
      rcases List.isChain_cons_cons.mp rising with ⟨le, rising⟩
      exact ih ((h.later le).serve timed.2).2 rising

/-- What is on record after requests of which the last one was made now. -/
structure Held (readings : List Instant) (ledger : ClaimLedger) (answer : ClaimAnswer)
    (records : ClaimRecords) (now : Instant) : Prop where
  /-- Nothing is taken out before it expires but what the ledger drops. -/
  live : ∀ eventId expiry, now < expiry →
    (records.expiries.get? eventId = some expiry ↔ ledger.expiry? eventId = some expiry)
  /-- Unless a leap second by midnight was just read, what is left expired within a second. -/
  second : answer.succeeded = true →
    (∀ reading ∈ readings, reading.LeapsByMidnight → reading.second + 2 < now.second) →
    ∀ eventId expiry earlier, records.expiries.get? eventId = some expiry →
      now.before? sweepPause = some earlier → earlier < expiry
  threeSeconds : answer.succeeded = true →
    ∀ eventId expiry earlier, records.expiries.get? eventId = some expiry →
      now.before? (.ofSeconds 3) = some earlier → earlier < expiry

theorem Mirrors.held_iff (h : records.Mirrors ledger now) {eventId : String} {expiry : Instant}
    (live : now < expiry) :
    records.expiries.get? eventId = some expiry ↔ ledger.expiry? eventId = some expiry := by
  have same := h eventId now (Instant.le_refl now)
  have held : records.liveAt now eventId = some expiry ↔
      records.expiries.get? eventId = some expiry := by
    simp [liveAt, Option.filter_eq_some_iff, live]
  have written : (ledger.expiry? eventId).filter (fun expiry => now < expiry) = some expiry ↔
      ledger.expiry? eventId = some expiry := by
    simp [Option.filter_eq_some_iff, live]
  rw [← held, ← written, same]

/--
Right after a write that was made, what is on record expired less than a second ago, if at all, and
less than three seconds ago where a leap second was read by midnight.  What has not expired is on
record until it is dropped.  This holds in every run in which the clock does not go back.
-/
theorem held_briefly (start now : Instant) (requests : List (Instant × ClaimRequest))
    (request : ClaimRequest)
    (rising : List.IsChain (· ≤ ·) (start :: (requests.map (·.1) ++ [now])))
    (bounded : ∀ reading ∈ start :: (requests.map (·.1) ++ [now]),
      reading.nanosecond < 2000000000) :
    Held (start :: (requests.map (·.1) ++ [now]))
      (ClaimLedger.serve now (ClaimLedger.servedAll [] requests) request).2
      (((ClaimRecords.start start).servedAll requests).serve now request).1
      (((ClaimRecords.start start).servedAll requests).serve now request).2 now := by
  have among : ∀ timed ∈ requests, timed.1 ∈ start :: (requests.map (·.1) ++ [now]) :=
    fun timed mem =>
      List.mem_cons_of_mem _ (List.mem_append_left _ (List.mem_map.mpr ⟨timed, mem, rfl⟩))
  have tidy := ((Tidy.start List.mem_cons_self).servedAll rising among).serve (by simp) request
  have mirrors := (((Mirrors.start start).servedAll rising).serve request).2
  rcases tidy with ⟨tidy, recent⟩
  constructor
  · intro eventId expiry live
    exact mirrors.held_iff live
  · intro succeeded regular eventId expiry earlier found back
    have nowRegular : ¬now.LeapsByMidnight := by
      intro leaps
      have past := regular now (by simp) leaps
      omega
    have before := Instant.before?_second_lt (bounded _ tidy.known) (bounded now (by simp))
      (recent succeeded) (regular _ tidy.known) nowRegular back
    exact Instant.lt_of_lt_of_le before (tidy.fresh eventId expiry found)
  · intro succeeded eventId expiry earlier found back
    have before := Instant.before?_three_seconds_lt (bounded _ tidy.known)
      (bounded now (by simp)) (recent succeeded) back
    exact Instant.lt_of_lt_of_le before (tidy.fresh eventId expiry found)

def twoClaims : List (Instant × ClaimRequest) :=
  [(.epoch, .claim "a" (.ofMilliseconds 300)), (⟨0, 500000000⟩, .claim "b" (.ofSeconds 1))]

theorem expired_held_briefly :
    ((ClaimRecords.start .epoch).servedAll twoClaims).expiries.get? "a" = some ⟨0, 300000000⟩ ∧
      ((ClaimRecords.start .epoch).servedAll twoClaims).serve ⟨1, 0⟩ (.claim "c" .zero) =
        (.granted (.returned (.ok true)),
          { expiries := ((Register.put "b" ⟨1, 500000000⟩ {}).put "c" ⟨1, 0⟩), swept := ⟨1, 0⟩ }) ∧
      ∀ eventId expiry,
        (((ClaimRecords.start .epoch).servedAll twoClaims).serve ⟨1, 0⟩
          (.claim "c" .zero)).2.expiries.get? eventId = some expiry → Instant.epoch < expiry := by
  have held := held_briefly .epoch ⟨1, 0⟩ twoClaims (.claim "c" .zero) (by decide +kernel)
    (by decide +kernel)
  refine ⟨by decide +kernel, by rfl, ?_⟩
  intro eventId expiry found
  exact held.second rfl (by decide +kernel) eventId expiry .epoch found (by decide +kernel)

def leapSecond : Instant := ⟨1483228799, 1500000000⟩

/-- A claim made in the leap second is on record 1.8 seconds later, 1.1 seconds after it expired. -/
theorem overdue_after_leap_second :
    let requests : List (Instant × ClaimRequest) :=
      [(leapSecond, .claim "a" (.ofMilliseconds 700))]
    let now : Instant := ⟨1483228801, 300000000⟩
    let served := ((ClaimRecords.start leapSecond).servedAll requests).serve now
      (.claim "b" defaultRetention)
    List.IsChain (· ≤ ·) (leapSecond :: (requests.map (·.1) ++ [now])) ∧
      served.1.succeeded = true ∧
      served.2.expiries.get? "a" = some ⟨1483228800, 200000000⟩ ∧
      now.before? sweepPause = some ⟨1483228800, 300000000⟩ ∧
      ¬(⟨1483228800, 300000000⟩ : Instant) < ⟨1483228800, 200000000⟩ := by
  decide +kernel

end ClaimRecords
end MissionControl
