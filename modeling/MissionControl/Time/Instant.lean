import MissionControl.Time.Date
import MissionControl.Time.Duration

/-!
# Instants

A point of time in UTC: the second it falls in, counted from 1 January 1970, and the nanoseconds
past it.  A leap second is kept as the second before it with a thousand million nanoseconds or
more, so instants are ordered by second and then by nanosecond.
-/

namespace MissionControl

structure Instant where
  second : Int
  nanosecond : Nat
  deriving Repr, DecidableEq

namespace Instant

def epoch : Instant := ⟨0, 0⟩

instance : Inhabited Instant := ⟨epoch⟩

/-! ## Order -/

instance : LT Instant :=
  ⟨fun a b => a.second < b.second ∨ a.second = b.second ∧ a.nanosecond < b.nanosecond⟩

instance : LE Instant :=
  ⟨fun a b => a.second < b.second ∨ a.second = b.second ∧ a.nanosecond ≤ b.nanosecond⟩

instance : DecidableRel ((· < ·) : Instant → Instant → Prop) :=
  fun a b => inferInstanceAs
    (Decidable (a.second < b.second ∨ a.second = b.second ∧ a.nanosecond < b.nanosecond))

instance : DecidableRel ((· ≤ ·) : Instant → Instant → Prop) :=
  fun a b => inferInstanceAs
    (Decidable (a.second < b.second ∨ a.second = b.second ∧ a.nanosecond ≤ b.nanosecond))

theorem lt_iff {a b : Instant} :
    a < b ↔ a.second < b.second ∨ a.second = b.second ∧ a.nanosecond < b.nanosecond :=
  Iff.rfl

theorem le_iff {a b : Instant} :
    a ≤ b ↔ a.second < b.second ∨ a.second = b.second ∧ a.nanosecond ≤ b.nanosecond :=
  Iff.rfl

theorem not_lt {a b : Instant} : ¬a < b ↔ b ≤ a := by
  rw [lt_iff, le_iff]
  omega

theorem not_le {a b : Instant} : ¬a ≤ b ↔ b < a := by
  rw [lt_iff, le_iff]
  omega

theorem le_refl (a : Instant) : a ≤ a := by
  rw [le_iff]
  omega

theorem le_trans {a b c : Instant} (hab : a ≤ b) (hbc : b ≤ c) : a ≤ c := by
  rw [le_iff] at *
  omega

theorem le_antisymm {a b : Instant} (hab : a ≤ b) (hba : b ≤ a) : a = b := by
  rw [le_iff] at *
  cases a
  cases b
  simp_all
  omega

/-! ## Reading -/

/-- Milliseconds since the epoch, rounded down; a leap second is a thousand past second 59. -/
def milliseconds (t : Instant) : Int :=
  t.second * 1000 + t.nanosecond / 1000000

def dayNumber (t : Instant) : Int := t.second / 86400

def secondOfDay (t : Instant) : Int := t.second % 86400

/-! ## Moving -/

def firstSecond : Int := Time.yearStart (-262143) * 86400

def lastSecond : Int := Time.yearStart 262143 * 86400 - 1

def within? (t : Instant) : Option Instant :=
  if firstSecond ≤ t.second ∧ t.second ≤ lastSecond then some t else none

/--
The instant a signed number of nanoseconds later, if it can be told.  Inside a leap second only
the fraction moves; leaving it, forwards or backwards, counts it as the second 59 that it shares
or the second that follows.
-/
def shift? (t : Instant) (nanoseconds : Int) : Option Instant :=
  let seconds := nanoseconds.tdiv 1000000000
  let fraction := nanoseconds.tmod 1000000000
  let leap := 1000000000 ≤ t.nanosecond
  let leaves := 0 < seconds ∨ 0 < fraction ∧ 2000000000 ≤ (t.nanosecond : Int) + fraction
  if leap ∧ ¬leaves ∧ ¬seconds < 0 then
    within? ⟨t.second, (t.nanosecond + fraction).toNat⟩
  else
    let second := if leap ∧ ¬leaves then t.second + 1 else t.second
    let nanosecond : Int := (if leap then t.nanosecond - 1000000000 else t.nanosecond) + fraction
    within? ⟨second + seconds + nanosecond / 1000000000, (nanosecond % 1000000000).toNat⟩

def longestShift : Nat := 9223372036854775807 * 1000000

def outOfBounds : String := "TimeDelta::milliseconds out of bounds"

def overflow : String := "`DateTime + TimeDelta` overflowed"

def after? (t : Instant) (d : Duration) : Option Instant :=
  t.shift? d.nanoseconds

/-- The nanoseconds from `earlier` to `later`, counting a leap second that lies between them. -/
def elapsed (earlier later : Instant) : Int :=
  let leap :=
    if earlier.secondOfDay < later.secondOfDay ∧ 1000000000 ≤ earlier.nanosecond then 1
    else if later.secondOfDay < earlier.secondOfDay ∧ 1000000000 ≤ later.nanosecond then -1
    else 0
  (later.second - earlier.second + leap) * 1000000000 + later.nanosecond - earlier.nanosecond

end Instant

end MissionControl
