import MissionControl.Time.Date

/-!
# Days and dates

Every day has a date, and the date has the number of the day.  A year is found from the average
length of years in 400 of them, which is never more than one off, and the month and day from the
lengths of its months.
-/

namespace MissionControl
namespace Time

/-! ## Years -/

def yearLength (year : Int) : Nat :=
  if isLeapYear year then 366 else 365

theorem yearStart_succ (year : Int) : yearStart (year + 1) = yearStart year + yearLength year := by
  have leap : isLeapYear year = true ↔ year % 4 = 0 ∧ (year % 100 ≠ 0 ∨ year % 400 = 0) := by
    simp [isLeapYear]
  unfold yearStart yearLength
  by_cases h : isLeapYear year = true
  · rw [if_pos h]
    have rule := leap.mp h
    omega
  · rw [if_neg h]
    have rule := mt leap.mpr h
    omega

theorem foldl_monthLengths (year : Int) :
    (monthLengths year).foldl Nat.add 0 = yearLength year := by
  unfold monthLengths yearLength
  cases isLeapYear year <;> rfl

theorem yearOf_bounds (n : Int) :
    yearStart (Date.yearOf n) ≤ n ∧ n < yearStart (Date.yearOf n + 1) := by
  have near : yearStart (1970 + 400 * n / 146097 - 1) ≤ n ∧
      n < yearStart (1970 + 400 * n / 146097 + 1 + 1) := by
    unfold yearStart
    omega
  unfold Date.yearOf
  dsimp only
  generalize 1970 + 400 * n / 146097 = guess at near
  split
  · constructor
    · exact near.1
    · rwa [Int.sub_add_cancel]
  · split
    · constructor
      · assumption
      · exact near.2
    · omega

/-! ## Months -/

theorem foldl_add (lengths : List Nat) (n : Nat) :
    lengths.foldl Nat.add n = n + lengths.foldl Nat.add 0 := by
  induction lengths generalizing n with
  | nil =>
      rfl
  | cons length lengths ih =>
      rw [List.foldl_cons, List.foldl_cons, ih, ih (Nat.add 0 length)]
      show n + length + _ = n + (0 + length + _)
      omega

theorem exists_monthAndDay {lengths : List Nat} {offset : Nat} (month : Nat)
    (inside : offset < lengths.foldl Nat.add 0) :
    ∃ before length day, lengths[before]? = some length ∧ day < length ∧
      (lengths.take before).foldl Nat.add 0 + day = offset ∧
        Date.monthAndDay lengths month offset = (month + before, day + 1) := by
  induction lengths generalizing month offset with
  | nil =>
      cases inside
  | cons length lengths ih =>
      rw [List.foldl_cons, foldl_add] at inside
      rw [Date.monthAndDay]
      split
      · rename_i first
        exact ⟨0, length, offset, rfl, first, Nat.zero_add offset, rfl⟩
      · rename_i later
        have shorter : offset - length < lengths.foldl Nat.add 0 := by
          have := inside
          simp only [Nat.add_eq] at this
          omega
        rcases ih (month + 1) shorter with ⟨before, own, day, found, within, total, place⟩
        refine ⟨before + 1, own, day, found, within, ?_, ?_⟩
        · rw [List.take_succ_cons, List.foldl_cons, foldl_add]
          simp only [Nat.add_eq]
          omega
        · rw [place]
          refine Prod.ext ?_ rfl
          show month + 1 + before = month + (before + 1)
          omega

theorem le_of_mem_monthLengths {year : Int} {length : Nat} (mem : length ∈ monthLengths year) :
    length ≤ 31 := by
  revert mem
  unfold monthLengths
  cases isLeapYear year <;> revert length <;> decide

/-! ## Dates -/

namespace Date

/-- A day has a date: the one that lies in its year as many days after the first. -/
theorem ofDayNumber_spec (n : Int) :
    (ofDayNumber n).isValid = true ∧ (ofDayNumber n).dayNumber = n ∧
      (ofDayNumber n).month ≤ 12 ∧ (ofDayNumber n).day ≤ 31 := by
  have bounds := yearOf_bounds n
  have length := yearStart_succ (yearOf n)
  have inside : (n - yearStart (yearOf n)).toNat < (monthLengths (yearOf n)).foldl Nat.add 0 := by
    rw [foldl_monthLengths]
    omega
  rcases exists_monthAndDay 1 inside with ⟨before, own, day, found, within, total, place⟩
  have date : ofDayNumber n = ⟨yearOf n, 1 + before, day + 1⟩ := by
    unfold ofDayNumber
    dsimp only
    rw [place]
  have early : before < 12 := (List.getElem?_eq_some_iff.mp found).1
  have short := le_of_mem_monthLengths (List.mem_of_getElem? found)
  rw [date]
  constructor
  · simp only [isValid, Nat.add_sub_cancel_left, found]
    simp
    omega
  constructor
  · simp only [dayNumber, Nat.add_sub_cancel_left]
    omega
  constructor
  · show 1 + before ≤ 12
    omega
  · show day + 1 ≤ 31
    omega

end Date
end Time
end MissionControl
