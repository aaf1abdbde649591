import MissionControl.Proofs.Checked
import MissionControl.Proofs.Claim.Liveness
import MissionControl.Proofs.Lock.Undisputed
import MissionControl.Settings

/-!
# Usable settings

The durations of settings are whole seconds, and are checked from below only.  Whether events can be
claimed and locks granted with them is decided by the clock: at each reading the end of a claim and
that of a lease must be an instant that can be told.  Before the year 10000 this is so at every
reading exactly if neither duration exceeds the time from there to the last second of all.
-/

namespace MissionControl

/-! ## Whole seconds -/

namespace Duration

theorem nanoseconds_ofSeconds (seconds : Nat) :
    (ofSeconds seconds).nanoseconds = seconds * 1000000000 := rfl

theorem seconds_ofSeconds (seconds : Nat) : (ofSeconds seconds).seconds = seconds :=
  Nat.mul_div_cancel seconds (by decide)

end Duration

/-! ## Ends that can be told -/

namespace Instant

variable {t : Instant} {seconds : Nat}

/-- What a clock can read: an instant that can be told, in a leap second or not. -/
structure IsReading (t : Instant) : Prop where
  first : firstSecond ≤ t.second
  last : t.second ≤ lastSecond
  fraction : t.nanosecond < 2000000000

theorem firstSecond_eq : firstSecond = -8334601228800 := by
  decide

theorem lastSecond_eq : lastSecond = 8210266876799 := by
  decide

theorem isSome_within?_iff : t.within?.isSome = true ↔
    firstSecond ≤ t.second ∧ t.second ≤ lastSecond := by
  unfold within?
  split
  · rename_i told
    exact iff_of_true rfl told
  · rename_i untold
    exact iff_of_false Bool.false_ne_true untold

theorem after?_ofSeconds (fraction : t.nanosecond < 2000000000) (positive : 0 < seconds) :
    t.after? (.ofSeconds seconds) =
      within? ⟨t.second + seconds, t.nanosecond % 1000000000⟩ := by
  have whole : ((Duration.ofSeconds seconds).nanoseconds : Int).tdiv 1000000000 = seconds := by
    rw [Duration.nanoseconds_ofSeconds, Int.tdiv_eq_ediv_of_nonneg (by omega)]
    omega
  have rest : ((Duration.ofSeconds seconds).nanoseconds : Int).tmod 1000000000 = 0 := by
    rw [Duration.nanoseconds_ofSeconds, Int.tmod_eq_emod_of_nonneg (by omega)]
    omega
  have leaves : 0 < (seconds : Int) := by
    omega
  have past : (if 1000000000 ≤ t.nanosecond then t.nanosecond - 1000000000 else t.nanosecond) =
      t.nanosecond % 1000000000 := by
    split <;> omega
  unfold after? shift?
  simp only [whole, rest, leaves, true_or, not_true_eq_false, and_false, false_and, if_false,
    past]
  apply congrArg within?
  rw [Instant.mk.injEq]
  omega

end Instant

theorem Duration.passes_ofSeconds_iff {now : Instant} {seconds : Nat} (reading : now.IsReading)
    (positive : 0 < seconds) :
    (Duration.ofSeconds seconds).Passes now ↔ now.second + seconds ≤ Instant.lastSecond := by
  have ends := Instant.after?_ofSeconds reading.fraction positive
  have first := reading.first
  constructor
  · intro passes
    have told := passes.tellable
    rw [ends, Instant.isSome_within?_iff] at told
    exact told.2
  · intro told
    constructor
    · rw [nanoseconds_ofSeconds]
      omega
    · rw [Instant.firstSecond_eq] at first
      rw [Instant.lastSecond_eq] at told
      rw [nanoseconds_ofSeconds, Instant.longestShift]
      omega
    · rw [ends, Instant.isSome_within?_iff]
      dsimp only
      omega

/-! ## Durations that are taken -/

namespace ClaimRecords

variable {eventId : String} {retention : Duration} {now : Instant} {records : ClaimRecords}

theorem mark_of_passes (passes : retention.Passes now) :
    (records.mark eventId retention now).1 = .returned (.ok ()) := by
  rcases expiry_of_passes passes with ⟨expires, _, told⟩
  unfold mark
  rw [told]

theorem passes_of_mark (positive : 0 < retention.nanoseconds)
    (marked : (records.mark eventId retention now).1 = .returned (.ok ())) :
    retention.Passes now := by
  unfold mark expiry at marked
  split at marked
  · cases marked
  · cases marked
  · rename_i told
    split at told
    · cases told
    · rename_i short
      cases after : now.after? retention with
      | none =>
          rw [after] at told
          cases told
      | some expires =>
          exact ⟨positive, Nat.not_lt.mp short, Option.isSome_of_eq_some after⟩

end ClaimRecords

namespace Leases

/-- A lock that no one has a live lease on, in a store that is not broken. -/
structure Free (name : String) (now : Instant) (leases : Leases) : Prop where
  whole : leases.isBroken = false
  expired : ∀ lease, leases.granted.get? name = some lease → lease.isLive now = false

theorem Idle.free {now : Instant} {leases : Leases} (idle : leases.Idle now) (name : String) :
    leases.Free name now :=
  ⟨idle.whole, idle.expired name⟩

theorem acquire_of_free {name : String} {token : Token} {expiry : Duration} {now : Instant}
    {leases : Leases} (free : leases.Free name now) (passes : expiry.Passes now) :
    (leases.acquire name token expiry now).1 = .now (.ok true) := by
  rcases Option.isSome_iff_exists.mp passes.tellable with ⟨expires, after⟩
  rw [acquire_of_undisputed free.whole _ passes.short after]
  intro lease found live
  rw [free.expired lease found] at live
  cases live

theorem passes_of_acquire {name : String} {token : Token} {expiry : Duration} {now : Instant}
    (positive : 0 < expiry.nanoseconds)
    (granted : (Leases.acquire name token expiry now {}).1 = .now (.ok true)) :
    expiry.Passes now := by
  unfold acquire at granted
  split at granted
  · cases granted
  · rename_i short
    cases after : now.after? expiry with
    | none =>
        rw [after] at granted
        cases granted
    | some expires =>
        exact ⟨positive, Nat.not_lt.mp short, Option.isSome_of_eq_some after⟩

end Leases

/-! ## Settings -/

namespace Settings

variable {lookup : Lookup} {s : Settings} {now : Instant}

theorem exists_of_positiveSeconds {name : String} {default d : Duration}
    (h : positiveSeconds lookup name default = .ok d) :
    ∃ seconds, 0 < seconds ∧ d = .ofSeconds seconds := by
  rcases exists_of_bind_eq_ok h with ⟨seconds, _, h⟩
  split at h
  · cases h
  · rename_i positive
    cases h
    exact ⟨seconds, Nat.pos_of_ne_zero positive, rfl⟩

theorem exists_of_read (accepted : read lookup = .ok s) :
    (∃ seconds, 0 < seconds ∧ s.mutex.expiry = .ofSeconds seconds) ∧
      ∃ seconds, 0 < seconds ∧ s.retention = .ofSeconds seconds := by
  unfold read at accepted
  rcases exists_of_bind_eq_ok accepted with ⟨expiry, readExpiry, accepted⟩
  rcases exists_of_bind_eq_ok accepted with ⟨attemptShare, _, accepted⟩
  rcases exists_of_bind_eq_ok accepted with ⟨retention, readRetention, accepted⟩
  rcases exists_of_bind_eq_ok accepted with ⟨tcpPort, _, accepted⟩
  rcases exists_of_bind_eq_ok accepted with ⟨retries, _, accepted⟩
  rcases exists_of_bind_eq_ok accepted with ⟨retryPause, _, accepted⟩
  rcases exists_of_bind_eq_ok accepted with ⟨guard, _, accepted⟩
  cases accepted
  exact ⟨exists_of_positiveSeconds readExpiry, exists_of_positiveSeconds readRetention⟩

/-- At a time, events can be claimed and marked, and free locks are granted. -/
structure Usable (s : Settings) (now : Instant) : Prop where
  claims : ∀ (eventId : String) (records : ClaimRecords),
    ∃ granted, (records.claim eventId s.retention now).1 = .returned (.ok granted)
  marks : ∀ (eventId : String) (records : ClaimRecords),
    (records.mark eventId s.retention now).1 = .returned (.ok ())
  locks : ∀ (name : String) (token : Token) (leases : Leases), leases.Free name now →
    (leases.acquire name token s.mutex.expiry now).1 = .now (.ok true)

theorem usable_iff_passes (retention : 0 < s.retention.nanoseconds)
    (expiry : 0 < s.mutex.expiry.nanoseconds) :
    s.Usable now ↔ s.retention.Passes now ∧ s.mutex.expiry.Passes now := by
  constructor
  · intro usable
    constructor
    · exact ClaimRecords.passes_of_mark retention (usable.marks "" (.start now))
    · have free : Leases.Free "" now {} := (Leases.idle_empty now).free ""
      exact Leases.passes_of_acquire expiry (usable.locks "" (.fresh 0) {} free)
  · rintro ⟨claims, locks⟩
    constructor
    · intro eventId records
      exact ⟨_, ClaimRecords.claim_of_passes claims eventId records⟩
    · intro eventId records
      exact ClaimRecords.mark_of_passes claims
    · intro name token leases free
      exact Leases.acquire_of_free free locks

/-- Settings that were accepted are usable while the ends of claims and leases can be told. -/
theorem usable_iff_ends_told (accepted : read lookup = .ok s) (reading : now.IsReading) :
    s.Usable now ↔ now.second + s.retention.seconds ≤ Instant.lastSecond ∧
      now.second + s.mutex.expiry.seconds ≤ Instant.lastSecond := by
  rcases exists_of_read accepted with ⟨⟨expiry, someExpiry, expirySeconds⟩,
    ⟨retention, someRetention, retentionSeconds⟩⟩
  rw [usable_iff_passes, expirySeconds, retentionSeconds,
    Duration.passes_ofSeconds_iff reading someRetention,
    Duration.passes_ofSeconds_iff reading someExpiry, Duration.seconds_ofSeconds,
    Duration.seconds_ofSeconds]
  · rw [retentionSeconds, Duration.nanoseconds_ofSeconds]
    omega
  · rw [expirySeconds, Duration.nanoseconds_ofSeconds]
    omega

def longestUsable : Nat := 7956864576000

/--
Settings that were accepted are usable at a reading exactly if the ends of a claim and of a lease
made then can be told, and usable until the end of the year 9999 exactly if neither lasts longer
than from there to the last second.
-/
theorem usable_iff_within_told_years (accepted : read lookup = .ok s) :
    (∀ now : Instant, now.IsReading →
      (s.Usable now ↔ now.second + s.retention.seconds ≤ Instant.lastSecond ∧
        now.second + s.mutex.expiry.seconds ≤ Instant.lastSecond)) ∧
    ((∀ now : Instant, now.IsReading → now.second < Time.yearStart 10000 * 86400 →
        s.Usable now) ↔
      s.retention.seconds ≤ longestUsable ∧ s.mutex.expiry.seconds ≤ longestUsable) := by
  have end9999 : Time.yearStart 10000 * 86400 = 253402300800 := by
    decide
  have reach := Instant.lastSecond_eq
  refine ⟨fun now reading => usable_iff_ends_told accepted reading, ?_, ?_⟩
  · intro usable
    have latest : Instant.IsReading ⟨253402300799, 0⟩ := by
      constructor
      · rw [Instant.firstSecond_eq]
        decide
      · rw [reach]
        decide
      · decide
    have told := (usable_iff_ends_told accepted latest).mp
      (usable ⟨253402300799, 0⟩ latest (by rw [end9999]; decide))
    unfold longestUsable
    rw [reach] at told
    dsimp only at told
    omega
  · rintro ⟨retention, expiry⟩ now reading early
    unfold longestUsable at retention expiry
    rw [usable_iff_ends_told accepted reading, reach]
    omega

def lasting (retention expiry : String) : Lookup := fun name =>
  if name = "DEDUP_TTL_SECONDS" then some retention
  else if name = "MUTEX_EXPIRY_SECONDS" then some expiry
  else none

theorem longest_settings_usable :
    ∃ s, read (lasting "7956864576000" "7956864576000") = .ok s ∧
      ∀ now : Instant, now.IsReading → now.second < Time.yearStart 10000 * 86400 →
        s.Usable now := by
  have accepted : read (lasting "7956864576000" "7956864576000") =
      .ok {
        retention := .ofSeconds longestUsable
        mutex := { expiry := .ofSeconds longestUsable } } := by
    apply eq_ok_of_toOption_eq_some
    decide +kernel
  refine ⟨_, accepted, ?_⟩
  apply (usable_iff_within_told_years accepted).2.mpr
  decide +kernel

/-- What is accepted may be refused, or end in a panic, as soon as it is used. -/
theorem unusable_settings_accepted :
    (∃ s, read (lasting "18446744073709551615" "30") = .ok s ∧ ¬s.Usable .epoch ∧
      (ClaimRecords.claim "a" s.retention .epoch (.start .epoch)).1 =
        .returned (.error (.invalidRetention (.ofSeconds 18446744073709551615)))) ∧
    ∃ s, read (lasting "29" "9000000000000") = .ok s ∧ ¬s.Usable .epoch ∧
      (Leases.acquire "a" (.fresh 0) s.mutex.expiry .epoch {}).1 = .panics Instant.overflow := by
  have retained : read (lasting "18446744073709551615" "30") =
      .ok { retention := .ofSeconds 18446744073709551615 } := by
    apply eq_ok_of_toOption_eq_some
    decide +kernel
  have locked : read (lasting "29" "9000000000000") =
      .ok { mutex := { expiry := .ofSeconds 9000000000000 } } := by
    apply eq_ok_of_toOption_eq_some
    decide +kernel
  have refused : (ClaimRecords.claim "a" (.ofSeconds 18446744073709551615) .epoch
      (.start .epoch)).1 =
        .returned (.error (.invalidRetention (.ofSeconds 18446744073709551615))) := by
    rfl
  have panics : (Leases.acquire "a" (.fresh 0) (.ofSeconds 9000000000000) .epoch {}).1 =
      .panics Instant.overflow := by
    rfl
  refine ⟨⟨_, retained, ?_, refused⟩, _, locked, ?_, panics⟩
  · intro usable
    rcases usable.claims "a" (.start .epoch) with ⟨granted, claimed⟩
    cases refused.symm.trans claimed
  · intro usable
    have free : Leases.Free "a" .epoch {} := (Leases.idle_empty .epoch).free "a"
    cases panics.symm.trans (usable.locks "a" (.fresh 0) {} free)

end Settings
end MissionControl
