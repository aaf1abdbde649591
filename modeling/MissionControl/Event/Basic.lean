import MissionControl.Text.LowerCase
import MissionControl.Time.Instant

/-!
# Rocket events

What can happen to a rocket, and the identity under which one occurrence of it is recognised when
it is delivered again.
-/

namespace MissionControl

/-! ## Kinds -/

inductive EventType where
  | launched
  | exploded
  | missionChanged
  | speedIncreased
  | speedDecreased
  deriving Repr, DecidableEq

namespace EventType

def all : List EventType :=
  [launched, exploded, missionChanged, speedIncreased, speedDecreased]

def name : EventType → String
  | launched => "RocketLaunched"
  | exploded => "RocketExploded"
  | missionChanged => "RocketMissionChanged"
  | speedIncreased => "RocketSpeedIncreased"
  | speedDecreased => "RocketSpeedDecreased"

def ofName? (name : String) : Option EventType :=
  all.find? fun type => type.name = name

end EventType

/-- What happened, with the values that the sender gave, none of them checked. -/
inductive EventKind where
  | launched (rocketType : String) (launchSpeed : Int64) (mission : String)
  | exploded (reason : String)
  | missionChanged (newMission : String)
  | speedIncreased (amount : Int64)
  | speedDecreased (amount : Int64)
  deriving DecidableEq

namespace EventKind

def type : EventKind → EventType
  | launched _ _ _ => .launched
  | exploded _ => .exploded
  | missionChanged _ => .missionChanged
  | speedIncreased _ => .speedIncreased
  | speedDecreased _ => .speedDecreased

end EventKind

/-! ## Identity -/

/-- The milliseconds that stand for a missing time: the first moment of the year 1. -/
def unsetMilliseconds : Int := -62135596800000

def identityMilliseconds (time : Option Instant) : Int :=
  match time with
  | some t => t.milliseconds
  | none => unsetMilliseconds

def legacyIdentity (channel typeName : String) (number : UInt64) : String :=
  s!"{channel}:{Text.lowerCase typeName}:{number}"

/--
The identity of a message: two messages that agree in it are taken for deliveries of one event.
-/
def identity (channel typeName : String) (number : UInt64) (time : Option Instant) : String :=
  s!"{legacyIdentity channel typeName number}:{identityMilliseconds time}"

/-! ## Events -/

structure RocketEvent where
  kind : EventKind
  eventId : String
  /-- The channel of the message, which should name a rocket. -/
  rocketId : String
  number : UInt64
  time : Option Instant
  deriving DecidableEq

namespace RocketEvent

def ofFields (kind : EventKind) (rocketId : String) (number : UInt64) (time : Option Instant) :
    RocketEvent :=
  { kind := kind, eventId := identity rocketId kind.type.name number time
    rocketId := rocketId, number := number, time := time }

def lockKey (event : RocketEvent) : String :=
  s!"rocket:{event.rocketId}"

end RocketEvent

end MissionControl
