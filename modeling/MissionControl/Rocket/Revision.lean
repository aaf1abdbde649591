import MissionControl.Script

/-!
# Revising

Changes to one rocket are asked for together.  All of them are checked before the rocket is looked
for; then they are applied in order, and the record is saved whether any of them counted or not.
-/

namespace MissionControl

structure RevisionOrder where
  id : String
  changes : List ChangeRequest
  deriving Repr, DecidableEq

namespace RevisionOrder

def validate (order : RevisionOrder) : Except Violation (RocketId × List Change) := do
  let id ← RocketId.parse order.id
  let changes ← order.changes.mapM ChangeRequest.validate
  return (id, changes)

def carryOut (guard : Guard) (order : RevisionOrder) : Script (Except Refusal Rocket) :=
  match order.validate with
  | .error violation => return .error (.brokenRule violation)
  | .ok (id, changes) => do
      match ← Script.perform (.findRocket id) with
      | .error failure => return .error failure
      | .ok r => do
          let revised := r.reviseAll guard changes
          match ← Script.perform (.saveRocket revised) with
          | .error failure => return .error failure
          | .ok () => return .ok revised

end RevisionOrder

end MissionControl
