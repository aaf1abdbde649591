import MissionControl.Outcome
import MissionControl.Supply
import MissionControl.Time.Instant

/-!
# Clocks

A clock is read at every call on a store that tells time.  It may be moved by hand, and stands
still at the time it is moved to.  A move to a time that cannot be told breaks the clock for good:
from then on every reading and every move of it panics.
-/

namespace MissionControl

/-- What the stores read the time from. -/
inductive Clock where
  | going (readings : Supply Instant)
  | broken

namespace Clock

def standing (time : Instant) : Clock := going (.always time)

def fault : String :=
  "called `Result::unwrap()` on an `Err` value: PoisonError \x7b .. \x7d"

def read : Clock → Outcome Instant
  | going readings => .returned readings.first
  | broken => .panicked fault

def tick : Clock → Clock
  | going readings => going readings.after
  | broken => broken

/--
Moves the clock by some milliseconds, forwards or backwards.  A move too long to be a duration is
refused before the clock is touched.
-/
def move (milliseconds : Int) (clock : Clock) : Outcome Unit × Clock :=
  if milliseconds * 1000000 < -Instant.longestShift then
    (.panicked Instant.outOfBounds, clock)
  else
    match clock with
    | going readings =>
        match readings.first.shift? (milliseconds * 1000000) with
        | some time => (.returned (), standing time)
        | none => (.panicked Instant.overflow, broken)
    | broken => (.panicked fault, broken)

/-! ## Laws -/

@[simp]
theorem read_standing (time : Instant) : (standing time).read = .returned time := rfl

@[simp]
theorem tick_standing (time : Instant) : (standing time).tick = standing time := rfl

end Clock

end MissionControl
