import MissionControl.Time.Instant

/-!
# Distances

Outside leap seconds instants are counted in nanoseconds, and the instant a duration later is that
many nanoseconds away.
-/

namespace MissionControl
namespace Instant

theorem lt_of_le_of_lt {a b c : Instant} (le : a ≤ b) (lt : b < c) : a < c := by
  rw [le_iff] at le
  rw [lt_iff] at *
  omega

theorem le_of_lt {a b : Instant} (lt : a < b) : a ≤ b := by
  rw [lt_iff] at lt
  rw [le_iff]
  omega

theorem lt_of_lt_of_le {a b c : Instant} (lt : a < b) (le : b ≤ c) : a < c := by
  rw [le_iff] at le
  rw [lt_iff] at *
  omega

def nanoseconds (t : Instant) : Int := t.second * 1000000000 + t.nanosecond

theorem nanoseconds_le {a b : Instant} (regular : a.nanosecond < 1000000000) (h : a ≤ b) :
    a.nanoseconds ≤ b.nanoseconds := by
  rw [le_iff] at h
  unfold nanoseconds
  omega

theorem after?_regular {t u : Instant} {d : Duration} (regular : t.nanosecond < 1000000000)
    (h : t.after? d = some u) :
    u.nanosecond < 1000000000 ∧ u.nanoseconds = t.nanoseconds + d.nanoseconds := by
  have seconds : (d.nanoseconds : Int).tdiv 1000000000 = d.nanoseconds / 1000000000 :=
    Int.tdiv_eq_ediv_of_nonneg (by omega)
  have fraction : (d.nanoseconds : Int).tmod 1000000000 = d.nanoseconds % 1000000000 :=
    Int.tmod_eq_emod_of_nonneg (by omega)
  unfold after? shift? at h
  simp only [seconds, fraction] at h
  have noLeap : ¬1000000000 ≤ t.nanosecond := by omega
  simp only [noLeap, false_and, if_false] at h
  unfold within? at h
  split at h
  · cases h
    unfold nanoseconds
    dsimp only
    omega
  · cases h

theorem eq_of_within? {t u : Instant} (h : within? t = some u) : u = t := by
  unfold within? at h
  split at h
  · exact (Option.some.inj h).symm
  · cases h

theorem lt_of_after? {t u : Instant} {d : Duration} (lasting : 0 < d.nanoseconds)
    (h : t.after? d = some u) : t < u := by
  have seconds : (d.nanoseconds : Int).tdiv 1000000000 = d.nanoseconds / 1000000000 :=
    Int.tdiv_eq_ediv_of_nonneg (by omega)
  have fraction : (d.nanoseconds : Int).tmod 1000000000 = d.nanoseconds % 1000000000 :=
    Int.tmod_eq_emod_of_nonneg (by omega)
  unfold after? shift? at h
  simp only [seconds, fraction] at h
  rw [lt_iff]
  split at h
  · rw [eq_of_within? h]
    dsimp only
    omega
  · rw [eq_of_within? h]
    dsimp only
    split <;> split <;> omega

theorem le_of_after? {t u : Instant} {d : Duration} (h : t.after? d = some u) : t ≤ u := by
  rcases Nat.eq_zero_or_pos d.nanoseconds with zero | lasting
  · unfold after? shift? at h
    rw [zero] at h
    simp only [Int.natCast_zero, Int.zero_tdiv, Int.zero_tmod] at h
    rw [le_iff]
    split at h
    · rw [eq_of_within? h]
      dsimp only
      omega
    · rw [eq_of_within? h]
      dsimp only
      split <;> split <;> omega
  · exact le_of_lt (lt_of_after? lasting h)

end Instant

/-- Something of a duration passes from a time on, up to an end that can be told. -/
structure Duration.Passes (d : Duration) (now : Instant) : Prop where
  positive : 0 < d.nanoseconds
  short : d.nanoseconds ≤ Instant.longestShift
  tellable : (now.after? d).isSome = true

end MissionControl
