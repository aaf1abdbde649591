import MissionControl.Event.Handling
import MissionControl.Proofs.Checked
import MissionControl.Proofs.Rocket.Records
import MissionControl.Proofs.World.Moments

/-!
# Effects of handlers

A handler of rocket events, played over a fleet, either fails and leaves everything as it is, or
saves one record under the identifier that the event names.
-/

namespace MissionControl

/-! ## Checked orders -/

theorem RocketId.text_parse {text : String} {id : RocketId} (h : RocketId.parse text = .ok id) :
    id.text = text := by
  unfold RocketId.parse at h
  split at h
  · cases h
  · split at h
    · cases h
      rfl
    · cases h

theorem LaunchOrder.exists_of_validate {order : LaunchOrder} {r : Rocket}
    (h : order.validate = .ok r) :
    ∃ id rocketType speed mission, RocketId.parse order.id = .ok id ∧
      RocketType.parse order.rocketType = .ok rocketType ∧
      LaunchSpeed.parse order.speed = .ok speed ∧ Mission.parse order.mission = .ok mission ∧
      r = .launch id rocketType speed mission order.time := by
  rcases exists_of_bind_eq_ok h with ⟨id, validId, h⟩
  rcases exists_of_bind_eq_ok h with ⟨rocketType, validType, h⟩
  rcases exists_of_bind_eq_ok h with ⟨speed, validSpeed, h⟩
  rcases exists_of_bind_eq_ok h with ⟨mission, validMission, h⟩
  cases h
  exact ⟨id, rocketType, speed, mission, validId, validType, validSpeed, validMission, rfl⟩

theorem LaunchOrder.text_validate {order : LaunchOrder} {r : Rocket}
    (h : order.validate = .ok r) : r.id.text = order.id := by
  rcases exists_of_validate h with ⟨id, rocketType, speed, mission, validId, _, _, _, rfl⟩
  exact RocketId.text_parse validId

theorem RevisionOrder.text_validate {order : RevisionOrder} {id : RocketId}
    {changes : List Change} (h : order.validate = .ok (id, changes)) : id.text = order.id := by
  rcases exists_of_bind_eq_ok h with ⟨parsed, hid, h⟩
  rcases exists_of_bind_eq_ok h with ⟨checked, _, h⟩
  cases h
  exact RocketId.text_parse hid

/-! ## Demands -/

namespace EventHandler

def Demand.rocketId : Demand → String
  | launch order => order.id
  | revision _ order => order.id

theorem rocketId_demand {handler : EventHandler} {event : RocketEvent} {demand : Demand}
    (h : handler.demand event = .ok demand) : demand.rocketId = event.rocketId := by
  unfold EventHandler.demand at h
  split at h
  · split at h
    · cases h
    · cases h
      rfl
  · cases h
    rfl
  · cases h
    rfl
  · rcases exists_of_map_eq_ok h with ⟨amount, _, rfl⟩
    rfl
  · rcases exists_of_map_eq_ok h with ⟨amount, _, rfl⟩
    rfl
  · cases h

/-! ## Footprints -/

theorem only_launch (order : LaunchOrder) :
    order.carryOut.Only fun c => c.isOnRockets = true := by
  unfold LaunchOrder.carryOut
  split
  · trivial
  · refine Script.Only.bind ?_ fun known => ?_
    · exact Script.Only.perform rfl
    · split
      · trivial
      · trivial
      · refine Script.Only.bind ?_ fun saved => ?_
        · exact Script.Only.perform rfl
        · cases saved <;> trivial

theorem only_revision (guard : Guard) (order : RevisionOrder) :
    (order.carryOut guard).Only fun c => c.isOnRockets = true := by
  unfold RevisionOrder.carryOut
  split
  · trivial
  · refine Script.Only.bind ?_ fun found => ?_
    · exact Script.Only.perform rfl
    · split
      · trivial
      · refine Script.Only.bind ?_ fun saved => ?_
        · exact Script.Only.perform rfl
        · cases saved <;> trivial

theorem only_handle (handler : EventHandler) (event : RocketEvent) :
    (handler.handle event).Only fun c => c.isOnRockets = true := by
  unfold handle
  split
  · trivial
  · rename_i demand _
    refine Script.Only.bind ?_ fun result => ?_
    · cases demand with
      | launch order =>
          exact only_launch order
      | revision guard order =>
          exact only_revision guard order
    · cases result <;> trivial

end EventHandler

/-! ## Effects on a fleet -/

namespace World

variable {L C : Type} [LockStore L] [ClaimStore C]

/-! ### Launches -/

theorem play_launch_of_rejected {order : LaunchOrder} {violation : Violation}
    (rejected : order.validate = .error violation) (w : World L C Fleet) :
    play order.carryOut w = (.returned (.error (.brokenRule violation)), w) := by
  unfold LaunchOrder.carryOut
  rw [rejected]
  rfl

theorem play_launch_of_known {order : LaunchOrder} {r : Rocket} {w : World L C Fleet}
    (valid : order.validate = .ok r) (known : w.rockets.isKnown r.id = true) :
    play order.carryOut w = (.returned (.error (.alreadyKnown r.id.text)), w) := by
  have told : play (Script.perform (.isKnown r.id)) w = (.returned (.ok true), w) := by
    rw [← known]
    rfl
  unfold LaunchOrder.carryOut
  rw [valid]
  exact play_bind_of_returned told

theorem play_launch_of_unknown {order : LaunchOrder} {r : Rocket} {w : World L C Fleet}
    (valid : order.validate = .ok r) (unknown : w.rockets.isKnown r.id = false) :
    play order.carryOut w = (.returned (.ok r), { w with rockets := w.rockets.save r }) := by
  have told : play (Script.perform (.isKnown r.id)) w = (.returned (.ok false), w) := by
    rw [← unknown]
    rfl
  unfold LaunchOrder.carryOut
  rw [valid]
  exact play_bind_of_returned told

theorem play_launch (order : LaunchOrder) (w : World L C Fleet) :
    (∃ cause, play order.carryOut w = (.returned (.error cause), w)) ∨
      ∃ r, order.validate = .ok r ∧ w.rockets.isKnown r.id = false ∧
        play order.carryOut w = (.returned (.ok r), { w with rockets := w.rockets.save r }) := by
  cases valid : order.validate with
  | error violation =>
      exact .inl ⟨_, play_launch_of_rejected valid w⟩
  | ok r =>
      cases known : w.rockets.isKnown r.id with
      | true =>
          exact .inl ⟨_, play_launch_of_known valid known⟩
      | false =>
          exact .inr ⟨r, rfl, known, play_launch_of_unknown valid known⟩

/-! ### Revisions -/

theorem play_revision_of_rejected (guard : Guard) {order : RevisionOrder} {violation : Violation}
    (rejected : order.validate = .error violation) (w : World L C Fleet) :
    play (order.carryOut guard) w = (.returned (.error (.brokenRule violation)), w) := by
  unfold RevisionOrder.carryOut
  rw [rejected]
  rfl

theorem play_revision_of_find (guard : Guard) {order : RevisionOrder} {id : RocketId}
    {changes : List Change} {found : Except Refusal Rocket} {w : World L C Fleet}
    (valid : order.validate = .ok (id, changes)) (finds : w.rockets.find id = found) :
    play (order.carryOut guard) w =
      match found with
      | .error failure => (.returned (.error failure), w)
      | .ok r =>
          (.returned (.ok (r.reviseAll guard changes)),
            { w with rockets := w.rockets.save (r.reviseAll guard changes) }) := by
  have told : play (Script.perform (.findRocket id)) w = (.returned found, w) := by
    rw [← finds]
    rfl
  unfold RevisionOrder.carryOut
  rw [valid]
  cases found with
  | error failure =>
      exact play_bind_of_returned told
  | ok r =>
      exact play_bind_of_returned told

theorem play_revision (guard : Guard) (order : RevisionOrder) (w : World L C Fleet) :
    (∃ cause, play (order.carryOut guard) w = (.returned (.error cause), w)) ∨
      ∃ id changes r, order.validate = .ok (id, changes) ∧ w.rockets.find id = .ok r ∧
        play (order.carryOut guard) w =
          (.returned (.ok (r.reviseAll guard changes)),
            { w with rockets := w.rockets.save (r.reviseAll guard changes) }) := by
  cases valid : order.validate with
  | error violation =>
      exact .inl ⟨_, play_revision_of_rejected guard valid w⟩
  | ok checked =>
      rcases checked with ⟨id, changes⟩
      cases found : w.rockets.find id with
      | error failure =>
          exact .inl ⟨failure, play_revision_of_find guard valid found⟩
      | ok r =>
          exact .inr ⟨id, changes, r, rfl, found, play_revision_of_find guard valid found⟩

/-! ### Handlers -/

theorem play_carryOut (demand : EventHandler.Demand) (w : World L C Fleet) :
    (∃ cause, play demand.carryOut w = (.returned (.error cause), w)) ∨
      ∃ r, r.id.text = demand.rocketId ∧
        play demand.carryOut w =
          (.returned (.ok r), { w with rockets := w.rockets.save r }) := by
  cases demand with
  | launch order =>
      rcases play_launch order w with failed | ⟨r, valid, _, played⟩
      · exact .inl failed
      · exact .inr ⟨r, LaunchOrder.text_validate valid, played⟩
  | revision guard order =>
      rcases play_revision guard order w with failed | ⟨id, changes, r, valid, found, played⟩
      · exact .inl failed
      · refine .inr ⟨_, ?_, played⟩
        rw [Rocket.id_reviseAll, Fleet.text_of_find found]
        exact RevisionOrder.text_validate valid

/-- A handler saves one record under the identifier of the event, or fails and saves nothing. -/
theorem play_handle (handler : EventHandler) (event : RocketEvent) (w : World L C Fleet) :
    (∃ failure, play (handler.handle event) w = (.returned (.error failure), w)) ∨
      ∃ r, r.id.text = event.rocketId ∧
        play (handler.handle event) w =
          (.returned (.ok ()), { w with rockets := w.rockets.save r }) := by
  unfold EventHandler.handle
  cases asked : handler.demand event with
  | error failure =>
      exact .inl ⟨failure, rfl⟩
  | ok demand =>
      rcases play_carryOut demand w with ⟨cause, played⟩ | ⟨r, same, played⟩
      · refine .inl ⟨.refused cause, ?_⟩
        exact play_bind_of_returned played
      · refine .inr ⟨r, same.trans (EventHandler.rocketId_demand asked), ?_⟩
        exact play_bind_of_returned played

/-! ## A rocket and an event -/

def acceleration : RocketEvent :=
  .ofFields (.speedIncreased 3000) "193270a9-c9cf-404a-8f83-838e71d9ae67" 2
    (some ⟨1643827205, 863370000⟩)

def oneRocket : Fleet :=
  match LaunchOrder.validate
    { id := acceleration.rocketId, rocketType := "Falcon-9", speed := 500, mission := "ARTEMIS"
      time := .epoch } with
  | .ok r => Fleet.empty.save r
  | .error _ => .empty

end World

end MissionControl
