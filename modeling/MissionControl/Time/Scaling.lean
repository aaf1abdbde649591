import MissionControl.Number.Binary64
import MissionControl.Time.Duration

/-!
# Scaled durations

A duration times a factor is computed in seconds as a double precision number and brought back to
the nearest nanosecond, a half to the even neighbour.
-/

namespace MissionControl
namespace Duration

/-- The duration in seconds: the whole seconds plus the fraction, each rounded. -/
def inSeconds (d : Duration) : Binary64 :=
  (Binary64.ofNat d.seconds).add
    ((Binary64.ofNat d.subsecond).div (Binary64.ofNat 1000000000))

/-- The nanoseconds nearest to a number of seconds; a number that is no length counts as zero. -/
def ofSecondsNearest : Binary64 → Duration
  | .finite false significand exponent =>
      let scaled := Binary64.scaledDown (significand * 1000000000) 1 (-exponent)
      ⟨Binary64.roundHalfEven scaled.1 scaled.2⟩
  | _ => zero

def scaled (d : Duration) (factor : Binary64) : Duration :=
  ofSecondsNearest (factor.mul d.inSeconds)

end Duration
end MissionControl
