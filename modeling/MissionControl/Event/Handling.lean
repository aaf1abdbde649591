import MissionControl.Bus
import MissionControl.Event.Basic
import MissionControl.Rocket.Launch
import MissionControl.Rocket.Revision

/-!
# Handling rocket events

Three handlers carry out what events tell of: one launches, one deletes, and one changes the
speed and the mission.  The event bus has one of them for each of the five types.
-/

namespace MissionControl

instance : ExclusiveInput RocketEvent where
  type event := event.kind.type.name
  lockKey := RocketEvent.lockKey

inductive EventHandler where
  | creation
  /-- Deletes the record of a rocket, under a guard. -/
  | deletion (guard : Guard)
  /-- Changes a rocket, under a guard. -/
  | parameters (guard : Guard)
  deriving Repr, DecidableEq

namespace EventHandler

/-- What an event asks for. -/
inductive Demand where
  | launch (order : LaunchOrder)
  | revision (guard : Guard) (order : RevisionOrder)
  deriving Repr, DecidableEq

def amountOf (amount : Int64) : Except HandlerFault Int :=
  if amount.toInt < 0 then .error (.refused (.brokenRule (.negativeAmount amount.toInt)))
  else .ok amount.toInt

def change (guard : Guard) (event : RocketEvent) (edit : EditRequest) : Demand :=
  .revision guard { id := event.rocketId, changes := [{ edit := edit, time := event.time }] }

/-- What an event asks a handler for; a handler takes only the kinds of events that it is for. -/
def demand (handler : EventHandler) (event : RocketEvent) : Except HandlerFault Demand :=
  match handler, event.kind with
  | creation, .launched rocketType launchSpeed mission =>
      match event.time with
      | none => .error (.refused (.brokenRule .missingLaunchTime))
      | some time =>
          .ok (.launch {
            id := event.rocketId, rocketType := rocketType, speed := launchSpeed.toInt
            mission := mission, time := time })
  | deletion guard, .exploded _ => .ok (change guard event .deletion)
  | parameters guard, .missionChanged newMission =>
      .ok (change guard event (.mission newMission))
  | parameters guard, .speedIncreased amount =>
      (amountOf amount).map fun amount => change guard event (.speed amount)
  | parameters guard, .speedDecreased amount =>
      (amountOf amount).map fun amount => change guard event (.speed (-amount))
  | _, kind => .error (.wrongInput kind.type.name)

def Demand.carryOut : Demand → Script (Except Refusal Rocket)
  | launch order => order.carryOut
  | revision guard order => order.carryOut guard

def handle (handler : EventHandler) : Handler RocketEvent Unit := fun event =>
  match handler.demand event with
  | .error failure => return .error failure
  | .ok demand => do
      match ← demand.carryOut with
      | .error cause => return .error (.refused cause)
      | .ok _ => return .ok ()

def ofType (guard : Guard) : EventType → EventHandler
  | .launched => creation
  | .exploded => deletion guard
  | .missionChanged => parameters guard
  | .speedIncreased => parameters guard
  | .speedDecreased => parameters guard

end EventHandler

abbrev EventBus := Bus RocketEvent Unit

namespace EventBus

def ofHandlers (handlers : List (String × EventHandler)) : EventBus :=
  .ofList (handlers.map fun entry => (entry.1, entry.2.handle))

def full (guard : Guard) : EventBus :=
  ofHandlers (EventType.all.map fun type => (type.name, .ofType guard type))

end EventBus

end MissionControl
