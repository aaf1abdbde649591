import MissionControl.Refusal
import MissionControl.Time.Instant

/-!
# Guards

Events may arrive out of order.  A guard decides from the time of a change and the time of the
last change applied whether the new one still counts.
-/

namespace MissionControl

/-- Which changes count, by their time. -/
inductive Guard where
  /-- Changes that are not later than the last one applied. -/
  | notAfter
  /-- Changes that are later than the last one applied. -/
  | strictlyAfter
  deriving Repr, DecidableEq

namespace Guard

instance : Inhabited Guard :=
  ⟨.notAfter⟩

def admits (guard : Guard) (time updatedAt : Instant) : Bool :=
  match guard with
  | notAfter => decide (time ≤ updatedAt)
  | strictlyAfter => decide (updatedAt < time)

def name : Guard → String
  | notAfter => "not-after"
  | strictlyAfter => "strictly-after"

def parse (text : String) : Except Violation Guard :=
  if text = notAfter.name then .ok notAfter
  else if text = strictlyAfter.name then .ok strictlyAfter
  else .error (.unknownGuard text)

end Guard

end MissionControl
