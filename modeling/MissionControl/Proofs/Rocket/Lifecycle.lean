import MissionControl.Proofs.Event.Effect
import MissionControl.Proofs.Time.Distance

/-!
# The lifecycle of a rocket

What every record of a rocket keeps, and how a later record of it is related to an earlier one: a
rocket keeps its identity, its time moves one way, and nothing changes after its end.
-/

namespace MissionControl

theorem RocketId.parse_text (id : RocketId) : RocketId.parse id.text = .ok id := by
  rcases id with ⟨text, uuid, read⟩
  have named : text.isEmpty = false := by
    by_contra blank
    rw [Bool.not_eq_false, String.isEmpty_iff] at blank
    subst blank
    cases read
  unfold parse
  simp only [named, Bool.false_eq_true, if_false]
  split
  · rfl
  · rename_i cause unread
    rw [read] at unread
    cases unread

theorem Mission.text_ne (mission : Mission) : mission.text ≠ "" := by
  intro unnamed
  have named := mission.isNamed
  rw [unnamed] at named
  cases named

/-! ## The direction of time -/

namespace Guard

def Leads (guard : Guard) (earlier later : Instant) : Prop :=
  match guard with
  | notAfter => later ≤ earlier
  | strictlyAfter => earlier ≤ later

theorem leads_refl (guard : Guard) (time : Instant) : guard.Leads time time := by
  cases guard <;> exact Instant.le_refl time

theorem Leads.trans {guard : Guard} {first second third : Instant} (h : guard.Leads first second)
    (later : guard.Leads second third) : guard.Leads first third := by
  cases guard with
  | notAfter =>
      exact Instant.le_trans later h
  | strictlyAfter =>
      exact Instant.le_trans h later

theorem leads_of_admits {guard : Guard} {time updatedAt : Instant}
    (h : guard.admits time updatedAt = true) : guard.Leads updatedAt time := by
  cases guard with
  | notAfter =>
      have before : time ≤ updatedAt := of_decide_eq_true h
      exact before
  | strictlyAfter =>
      have after : updatedAt < time := of_decide_eq_true h
      exact Instant.le_of_lt after

end Guard

/-! ## Records -/

namespace Rocket

/-- What the record of a rocket keeps in every state. -/
structure Sound (guard : Guard) (r : Rocket) : Prop where
  accepted : RocketId.parse r.id.text = .ok r.id
  rocketType : 5 ≤ r.rocketType.text.length
  mission : r.mission.text ≠ ""
  speed : 0 ≤ r.speed
  moved : guard.Leads r.createdAt r.updatedAt
  ended : ∀ time, r.deletedAt = some time → r.updatedAt = time

/-- How a record of a rocket is followed by a later one. -/
structure Precedes (guard : Guard) (earlier later : Rocket) : Prop where
  id : later.id = earlier.id
  rocketType : later.rocketType = earlier.rocketType
  createdAt : later.createdAt = earlier.createdAt
  moved : guard.Leads earlier.updatedAt later.updatedAt
  ended : earlier.isDeleted = true → later = earlier

variable {guard : Guard} {r : Rocket}

theorem Precedes.refl (guard : Guard) (r : Rocket) : r.Precedes guard r := by
  constructor
  · rfl
  · rfl
  · rfl
  · exact guard.leads_refl r.updatedAt
  · intro deleted
    rfl

theorem Precedes.trans {second third : Rocket} (h : r.Precedes guard second)
    (later : second.Precedes guard third) : r.Precedes guard third := by
  constructor
  · rw [later.id, h.id]
  · rw [later.rocketType, h.rocketType]
  · rw [later.createdAt, h.createdAt]
  · exact h.moved.trans later.moved
  · intro deleted
    have same := h.ended deleted
    rw [same] at later
    exact later.ended deleted

/-! ## Launching -/

theorem sound_launch (guard : Guard) (id : RocketId) (rocketType : RocketType)
    (speed : LaunchSpeed) (mission : Mission) (time : Instant) :
    (launch id rocketType speed mission time).Sound guard := by
  constructor
  · exact id.parse_text
  · exact rocketType.isLong
  · exact mission.text_ne
  · exact speed.inRange.1
  · exact guard.leads_refl time
  · intro ended deleted
    cases deleted

theorem sound_validate {order : LaunchOrder} (guard : Guard) (h : order.validate = .ok r) :
    r.Sound guard := by
  rcases LaunchOrder.exists_of_validate h with
    ⟨id, rocketType, speed, mission, _, _, _, _, rfl⟩
  exact sound_launch guard id rocketType speed mission order.time

/-! ## Changing -/

/-- A change that counts is made to a live rocket, at a time that the guard admits. -/
theorem revise_eq (guard : Guard) (r : Rocket) (change : Change) :
    r.revise guard change = r ∨
      ∃ time, r.isDeleted = false ∧ guard.Leads r.updatedAt time ∧
        r.revise guard change = r.edited change.edit time := by
  unfold revise
  cases counted : r.admitted? guard change with
  | none =>
      exact .inl rfl
  | some time =>
      rcases Option.filter_eq_some_iff.mp counted with ⟨_, admitted⟩
      rcases Bool.and_eq_true_iff.mp admitted with ⟨live, inTime⟩
      exact .inr ⟨time, Bool.not_eq_true' _ ▸ live, Guard.leads_of_admits inTime, rfl⟩

theorem sound_edited (h : r.Sound guard) (live : r.isDeleted = false) {time : Instant}
    (leads : guard.Leads r.updatedAt time) (edit : Edit) : (r.edited edit time).Sound guard := by
  have moved := h.moved.trans leads
  have unended : r.deletedAt = none :=
    Option.isNone_iff_eq_none.mp (Option.isSome_eq_false_iff.mp live)
  cases edit with
  | speed change =>
      refine ⟨h.accepted, h.rocketType, h.mission, Int.le_max_left 0 _, moved, ?_⟩
      intro ended deleted
      change r.deletedAt = some ended at deleted
      rw [unended] at deleted
      cases deleted
  | mission mission =>
      refine ⟨h.accepted, h.rocketType, mission.text_ne, h.speed, moved, ?_⟩
      intro ended deleted
      change r.deletedAt = some ended at deleted
      rw [unended] at deleted
      cases deleted
  | deletion =>
      refine ⟨h.accepted, h.rocketType, h.mission, h.speed, moved, ?_⟩
      intro ended deleted
      exact Option.some.inj deleted

theorem precedes_edited (live : r.isDeleted = false) {time : Instant}
    (leads : guard.Leads r.updatedAt time) (edit : Edit) :
    r.Precedes guard (r.edited edit time) := by
  have unended : r.isDeleted = true → r.edited edit time = r := by
    intro deleted
    rw [live] at deleted
    cases deleted
  cases edit with
  | speed change =>
      exact ⟨rfl, rfl, rfl, leads, unended⟩
  | mission mission =>
      exact ⟨rfl, rfl, rfl, leads, unended⟩
  | deletion =>
      exact ⟨rfl, rfl, rfl, leads, unended⟩

theorem sound_reviseAll (h : r.Sound guard) (changes : List Change) :
    (r.reviseAll guard changes).Sound guard := by
  unfold reviseAll
  induction changes generalizing r with
  | nil =>
      exact h
  | cons change rest ih =>
      rw [List.foldl_cons]
      apply ih
      rcases r.revise_eq guard change with same | ⟨time, live, leads, counted⟩
      · rw [same]
        exact h
      · rw [counted]
        exact sound_edited h live leads change.edit

theorem precedes_reviseAll (guard : Guard) (r : Rocket) (changes : List Change) :
    r.Precedes guard (r.reviseAll guard changes) := by
  unfold reviseAll
  induction changes generalizing r with
  | nil =>
      exact .refl guard r
  | cons change rest ih =>
      rw [List.foldl_cons]
      refine Precedes.trans ?_ (ih (r.revise guard change))
      rcases r.revise_eq guard change with same | ⟨time, live, leads, counted⟩
      · rw [same]
        exact .refl guard r
      · rw [counted]
        exact precedes_edited live leads change.edit

end Rocket

/-! ## Fleets -/

namespace Fleet

def Sound (guard : Guard) (fleet : Fleet) : Prop :=
  ∀ text r, fleet.recordAt text = some r → r.id.text = text ∧ r.Sound guard

def Precedes (guard : Guard) (earlier later : Fleet) : Prop :=
  ∀ text r, earlier.recordAt text = some r →
    ∃ follower, later.recordAt text = some follower ∧ r.Precedes guard follower

/-- What a request makes of a fleet: nothing, one new record, or one live rocket revised. -/
inductive Advance (guard : Guard) (fleet : Fleet) : Fleet → Prop where
  | same : Advance guard fleet fleet
  | launched {order : LaunchOrder} {r : Rocket} : order.validate = .ok r →
      fleet.isKnown r.id = false → Advance guard fleet (fleet.save r)
  | revised {id : RocketId} {r : Rocket} (changes : List Change) : fleet.find id = .ok r →
      Advance guard fleet (fleet.save (r.reviseAll guard changes))

variable {guard : Guard} {fleet later : Fleet}

theorem recordAt_of_find {id : RocketId} {r : Rocket} (h : fleet.find id = .ok r) :
    fleet.recordAt r.id.text = some r ∧ r.isDeleted = false := by
  have same := text_of_find h
  unfold find at h
  rw [record?_eq_recordAt] at h
  cases found : fleet.recordAt id.text with
  | none =>
      rw [found] at h
      cases h
  | some s =>
      rw [found] at h
      dsimp only at h
      split at h
      · cases h
      · rename_i live
        cases h
        rw [same]
        exact ⟨found, Bool.not_eq_true _ ▸ live⟩

theorem sound_empty (guard : Guard) : empty.Sound guard := by
  intro text r found
  cases found

theorem Sound.save (h : fleet.Sound guard) {r : Rocket} (sound : r.Sound guard) :
    (fleet.save r).Sound guard := by
  intro text s found
  rw [recordAt_save] at found
  split at found
  · rename_i here
    cases found
    exact ⟨here.symm, sound⟩
  · exact h text s found

theorem Precedes.refl (guard : Guard) (fleet : Fleet) : fleet.Precedes guard fleet := by
  intro text r found
  exact ⟨r, found, .refl guard r⟩

theorem Precedes.trans {third : Fleet} (h : fleet.Precedes guard later)
    (last : later.Precedes guard third) : fleet.Precedes guard third := by
  intro text r found
  rcases h text r found with ⟨second, foundSecond, first⟩
  rcases last text second foundSecond with ⟨follower, foundFollower, next⟩
  exact ⟨follower, foundFollower, first.trans next⟩

/-- A record is saved over one that it follows, or where there was none. -/
theorem precedes_save {r : Rocket}
    (follows : ∀ s, fleet.recordAt r.id.text = some s → s.Precedes guard r) :
    fleet.Precedes guard (fleet.save r) := by
  intro text s found
  rw [recordAt_save]
  split
  · rename_i here
    rw [here] at found
    exact ⟨r, rfl, follows s found⟩
  · exact ⟨s, found, .refl guard s⟩

namespace Advance

theorem sound (h : fleet.Advance guard later) (before : fleet.Sound guard) :
    later.Sound guard := by
  cases h with
  | same =>
      exact before
  | launched valid fresh =>
      exact before.save (Rocket.sound_validate guard valid)
  | @revised id r changes found =>
      rcases recordAt_of_find found with ⟨recorded, _⟩
      exact before.save (Rocket.sound_reviseAll (before _ r recorded).2 changes)

theorem precedes (h : fleet.Advance guard later) : fleet.Precedes guard later := by
  cases h with
  | same =>
      exact .refl guard fleet
  | @launched order r valid fresh =>
      apply precedes_save
      intro s found
      rw [isKnown_eq_isSome, found] at fresh
      cases fresh
  | @revised id r changes found =>
      apply precedes_save
      intro s recorded
      rw [Rocket.id_reviseAll, (recordAt_of_find found).1] at recorded
      cases recorded
      exact r.precedes_reviseAll guard changes

end Advance
end Fleet
end MissionControl
