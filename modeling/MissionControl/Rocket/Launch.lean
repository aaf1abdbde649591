import MissionControl.Script

/-!
# Launching

A launch is ordered with unchecked values.  They are checked in order, then the identifier must
be new, exploded rockets included, and then the rocket is recorded as it was ordered.
-/

namespace MissionControl

structure LaunchOrder where
  id : String
  rocketType : String
  speed : Int
  mission : String
  time : Instant
  deriving Repr, DecidableEq

namespace LaunchOrder

def validate (order : LaunchOrder) : Except Violation Rocket := do
  let id ← RocketId.parse order.id
  let rocketType ← RocketType.parse order.rocketType
  let speed ← LaunchSpeed.parse order.speed
  let mission ← Mission.parse order.mission
  return Rocket.launch id rocketType speed mission order.time

def carryOut (order : LaunchOrder) : Script (Except Refusal Rocket) :=
  match order.validate with
  | .error violation => return .error (.brokenRule violation)
  | .ok r => do
      match ← Script.perform (.isKnown r.id) with
      | .error failure => return .error failure
      | .ok true => return .error (.alreadyKnown r.id.text)
      | .ok false =>
          match ← Script.perform (.saveRocket r) with
          | .error failure => return .error failure
          | .ok () => return .ok r

end LaunchOrder

end MissionControl
