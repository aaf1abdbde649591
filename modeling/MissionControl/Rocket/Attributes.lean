import MissionControl.Refusal

/-!
# Attributes of a rocket

The identifier, type, mission, launch speed and speed change of a rocket, each with the rule that
its values keep.  A value can only be built by passing its check.
-/

namespace MissionControl

/-- The identifier of a rocket: a UUID in one of its spellings, kept as it was given. -/
structure RocketId where
  text : String
  isUuid : ∃ uuid, Uuid.parse text = .ok uuid
  deriving DecidableEq

namespace RocketId

def parse (text : String) : Except Violation RocketId :=
  if text.isEmpty then
    .error .emptyRocketId
  else
    match h : Uuid.parse text with
    | .ok uuid => .ok ⟨text, uuid, h⟩
    | .error cause => .error (.malformedRocketId text cause)

theorem ext_iff {a b : RocketId} : a = b ↔ a.text = b.text := by
  cases a
  cases b
  simp

end RocketId

structure RocketType where
  text : String
  isLong : 5 ≤ text.length
  deriving DecidableEq

namespace RocketType

def parse (text : String) : Except Violation RocketType :=
  if h : 5 ≤ text.length then .ok ⟨text, h⟩ else .error (.shortRocketType text)

end RocketType

structure Mission where
  text : String
  isNamed : text.isEmpty = false
  deriving DecidableEq

namespace Mission

def parse (text : String) : Except Violation Mission :=
  if h : text.isEmpty = false then .ok ⟨text, h⟩ else .error .emptyMission

end Mission

def speedLimit : Int := 1000000

structure LaunchSpeed where
  value : Int
  inRange : 0 ≤ value ∧ value ≤ speedLimit
  deriving DecidableEq

namespace LaunchSpeed

def parse (value : Int) : Except Violation LaunchSpeed :=
  if h : 0 ≤ value ∧ value ≤ speedLimit then .ok ⟨value, h⟩
  else .error (.launchSpeedOutOfRange value)

end LaunchSpeed

structure SpeedChange where
  value : Int
  inRange : -speedLimit ≤ value ∧ value ≤ speedLimit
  deriving DecidableEq

namespace SpeedChange

def parse (value : Int) : Except Violation SpeedChange :=
  if h : -speedLimit ≤ value ∧ value ≤ speedLimit then .ok ⟨value, h⟩
  else .error (.speedChangeOutOfRange value)

end SpeedChange

end MissionControl
