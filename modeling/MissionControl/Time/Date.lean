/-!
# Calendar dates

Dates of the proleptic Gregorian calendar and their numbering by days, with 1 January 1970 as
day 0.
-/

namespace MissionControl
namespace Time

structure Date where
  year : Int
  month : Nat
  day : Nat
  deriving Repr, DecidableEq

def isLeapYear (year : Int) : Bool :=
  year % 4 = 0 && (year % 100 ≠ 0 || year % 400 = 0)

def monthLengths (year : Int) : List Nat :=
  [31, if isLeapYear year then 29 else 28, 31, 30, 31, 30, 31, 31, 30, 31, 30, 31]

def yearStart (year : Int) : Int :=
  365 * (year - 1970) + (year - 1) / 4 - (year - 1) / 100 + (year - 1) / 400 - 477

namespace Date

def isValid (d : Date) : Bool :=
  1 ≤ d.month && 1 ≤ d.day &&
    match (monthLengths d.year)[d.month - 1]? with
    | some length => d.day ≤ length
    | none => false

def dayNumber (d : Date) : Int :=
  yearStart d.year + ((monthLengths d.year).take (d.month - 1)).foldl Nat.add 0 + d.day - 1

def yearOf (dayNumber : Int) : Int :=
  let guess := 1970 + 400 * dayNumber / 146097
  if dayNumber < yearStart guess then
    guess - 1
  else if yearStart (guess + 1) ≤ dayNumber then
    guess + 1
  else
    guess

/--
The month and day that lie `offset` days after the first of `month`, given the lengths from there.
-/
def monthAndDay : List Nat → Nat → Nat → Nat × Nat
  | [], month, offset => (month, offset + 1)
  | length :: lengths, month, offset =>
      if offset < length then
        (month, offset + 1)
      else
        monthAndDay lengths (month + 1) (offset - length)

def ofDayNumber (dayNumber : Int) : Date :=
  let year := yearOf dayNumber
  let place := monthAndDay (monthLengths year) 1 (dayNumber - yearStart year).toNat
  { year := year, month := place.1, day := place.2 }

end Date

end Time
end MissionControl
