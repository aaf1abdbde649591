import MissionControl.Rocket.Attributes
import MissionControl.Rocket.Guard

/-!
# Rockets

A rocket is launched once, changes speed and mission, and ends by exploding; its record is kept.
Every change passes the same gate: it counts only while the rocket has not exploded, if it carries
a time, and if the guard admits that time.  A change that does not count leaves the rocket as it
is, and one that counts moves `updatedAt` to its time.
-/

namespace MissionControl

structure Rocket where
  id : RocketId
  rocketType : RocketType
  speed : Int
  mission : Mission
  createdAt : Instant
  updatedAt : Instant
  deletedAt : Option Instant
  deriving DecidableEq

inductive Edit where
  | speed (change : SpeedChange)
  | mission (mission : Mission)
  | deletion
  deriving DecidableEq

structure Change where
  edit : Edit
  time : Option Instant
  deriving DecidableEq

inductive EditRequest where
  | speed (change : Int)
  | mission (text : String)
  | deletion
  deriving Repr, DecidableEq

structure ChangeRequest where
  edit : EditRequest
  time : Option Instant
  deriving Repr, DecidableEq

namespace ChangeRequest

def validate (request : ChangeRequest) : Except Violation Change := do
  let edit ←
    match request.edit with
    | .speed change => (SpeedChange.parse change).map .speed
    | .mission text => (Mission.parse text).map .mission
    | .deletion => pure Edit.deletion
  return { edit := edit, time := request.time }

end ChangeRequest

def topSpeed : Int := 9223372036854775807

/-- The speed after a change: never below zero and never above the top. -/
def changedSpeed (speed : Int) (change : SpeedChange) : Int :=
  max 0 (min topSpeed (speed + change.value))

namespace Rocket

def launch (id : RocketId) (rocketType : RocketType) (speed : LaunchSpeed) (mission : Mission)
    (time : Instant) : Rocket :=
  { id := id, rocketType := rocketType, speed := speed.value, mission := mission
    createdAt := time, updatedAt := time, deletedAt := none }

def isDeleted (r : Rocket) : Bool := r.deletedAt.isSome

def edited (r : Rocket) (edit : Edit) (time : Instant) : Rocket :=
  match edit with
  | .speed change => { r with speed := changedSpeed r.speed change, updatedAt := time }
  | .mission mission => { r with mission := mission, updatedAt := time }
  | .deletion => { r with deletedAt := some time, updatedAt := time }

/-- The time at which a change counts, if it does. -/
def admitted? (guard : Guard) (r : Rocket) (change : Change) : Option Instant :=
  change.time.filter fun time => !r.isDeleted && guard.admits time r.updatedAt

/-- The rocket after a change, which may leave it as it is. -/
def revise (guard : Guard) (r : Rocket) (change : Change) : Rocket :=
  match r.admitted? guard change with
  | some time => r.edited change.edit time
  | none => r

def reviseAll (guard : Guard) (r : Rocket) (changes : List Change) : Rocket :=
  changes.foldl (revise guard) r

theorem id_edited (r : Rocket) (edit : Edit) (time : Instant) : (r.edited edit time).id = r.id := by
  cases edit <;> rfl

theorem id_revise (guard : Guard) (r : Rocket) (change : Change) :
    (r.revise guard change).id = r.id := by
  unfold revise
  split
  · exact id_edited r change.edit _
  · rfl

theorem id_reviseAll (guard : Guard) (r : Rocket) (changes : List Change) :
    (r.reviseAll guard changes).id = r.id := by
  unfold reviseAll
  induction changes generalizing r with
  | nil =>
      rfl
  | cons change rest ih =>
      rw [List.foldl_cons, ih, id_revise]

end Rocket

end MissionControl
