/-!
# Durations

Lengths of time in whole nanoseconds, and their text in the largest unit that has a whole part.
-/

namespace MissionControl

structure Duration where
  nanoseconds : Nat
  deriving Repr, DecidableEq, Inhabited

namespace Duration

def zero : Duration := ⟨0⟩

def ofSeconds (seconds : Nat) : Duration := ⟨seconds * 1000000000⟩

def ofMilliseconds (milliseconds : Nat) : Duration := ⟨milliseconds * 1000000⟩

def ofMicroseconds (microseconds : Nat) : Duration := ⟨microseconds * 1000⟩

instance : LE Duration :=
  ⟨fun a b => a.nanoseconds ≤ b.nanoseconds⟩

instance : DecidableRel ((· ≤ ·) : Duration → Duration → Prop) :=
  fun a b => Nat.decLe a.nanoseconds b.nanoseconds

def seconds (d : Duration) : Nat := d.nanoseconds / 1000000000

def subsecond (d : Duration) : Nat := d.nanoseconds % 1000000000

def milliseconds (d : Duration) : Nat := (d.nanoseconds + 999999) / 1000000

/-! ## Text -/

def fractionDigits (places fraction : Nat) : List Char :=
  let digits := Nat.toDigits 10 fraction
  let padded := List.replicate (places - digits.length) '0' ++ digits
  (padded.reverse.dropWhile (· = '0')).reverse

def inUnit (nanoseconds places : Nat) (unit : String) : String :=
  let size := Nat.pow 10 places
  let whole := toString (nanoseconds / size)
  match fractionDigits places (nanoseconds % size) with
  | [] => whole ++ unit
  | digits => whole ++ "." ++ String.ofList digits ++ unit

/-- The duration in the largest of s, ms, µs and ns of which it has at least one. -/
def text (d : Duration) : String :=
  let n := d.nanoseconds
  if 1000000000 ≤ n then
    inUnit n 9 "s"
  else if 1000000 ≤ n then
    inUnit n 6 "ms"
  else if 1000 ≤ n then
    inUnit n 3 "µs"
  else
    inUnit n 0 "ns"

end Duration

end MissionControl
