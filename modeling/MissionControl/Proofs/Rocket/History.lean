import MissionControl.Proofs.Lock.Breakdown
import MissionControl.Proofs.Pool.Stages
import MissionControl.Proofs.Rocket.Lifecycle

/-!
# The history of a fleet

Launches, revisions and dispatches of events, one after another and under one guard, whatever they
ask for and whatever the lock store does.  Each makes at most one record out of another one or of
nothing, so every state of the fleet is sound and no state undoes what an earlier one has told.
-/

namespace MissionControl

/-- What can be asked of the rocket domain. -/
inductive RocketRequest where
  | launch (order : LaunchOrder)
  | revise (order : RevisionOrder)
  | dispatch (event : RocketEvent)
  | dispatchExclusively (mutex : Mutex) (event : RocketEvent)

namespace EventHandler

theorem exists_of_demand_revision {handler : EventHandler} {own : Guard} {event : RocketEvent}
    {order : RevisionOrder} (h : handler.demand event = .ok (.revision own order)) :
    handler = .deletion own ∨ handler = .parameters own := by
  unfold demand at h
  split at h
  · split at h
    · cases h
    · cases h
  · cases h
    exact .inl rfl
  · cases h
    exact .inr rfl
  · rcases exists_of_map_eq_ok h with ⟨amount, _, same⟩
    cases same
    exact .inr rfl
  · rcases exists_of_map_eq_ok h with ⟨amount, _, same⟩
    cases same
    exact .inr rfl
  · cases h

theorem guard_demand {guard own : Guard} {type : EventType} {event : RocketEvent}
    {order : RevisionOrder} (h : (ofType guard type).demand event = .ok (.revision own order)) :
    own = guard := by
  rcases exists_of_demand_revision h with same | same
  · cases type <;> cases same
    rfl
  · cases type <;> cases same <;> rfl

end EventHandler

namespace World

variable {L C : Type} [LockStore L] [ClaimStore C] {guard : Guard}

def served (guard : Guard) (w : World L C Fleet) : RocketRequest → World L C Fleet
  | .launch order => (play order.carryOut w).2
  | .revise order => (play (order.carryOut guard) w).2
  | .dispatch event => (play ((EventBus.full guard).dispatch event) w).2
  | .dispatchExclusively mutex event =>
      (play ((EventBus.full guard).dispatchExclusively mutex event) w).2

def servedAll (guard : Guard) (w : World L C Fleet) (requests : List RocketRequest) :
    World L C Fleet :=
  requests.foldl (served guard) w

/-! ## One request -/

theorem play_bind_done {R α β : Type} [RocketStore R] {s : Script α} {f : α → Script β}
    (ends : ∀ value, ∃ last, f value = .done last) (w : World L C R) :
    (play (s.bind f) w).2 = (play s w).2 := by
  rw [play_bind]
  cases play s w with
  | mk outcome v =>
      cases outcome with
      | panicked message =>
          rfl
      | returned value =>
          rcases ends value with ⟨last, same⟩
          simp only [same, play_done]

theorem advance_launch (order : LaunchOrder) (w : World L C Fleet) :
    w.rockets.Advance guard (play order.carryOut w).2.rockets := by
  rcases play_launch order w with ⟨cause, played⟩ | ⟨r, valid, fresh, played⟩
  · rw [played]
    exact .same
  · rw [played]
    exact .launched valid fresh

theorem advance_revision (order : RevisionOrder) (w : World L C Fleet) :
    w.rockets.Advance guard (play (order.carryOut guard) w).2.rockets := by
  rcases play_revision guard order w with ⟨cause, played⟩ | ⟨id, changes, r, _, found, played⟩
  · rw [played]
    exact .same
  · rw [played]
    exact .revised changes found

theorem advance_handle (type : EventType) (event : RocketEvent) (w : World L C Fleet) :
    w.rockets.Advance guard
      (play ((EventHandler.ofType guard type).handle event) w).2.rockets := by
  unfold EventHandler.handle
  cases asked : (EventHandler.ofType guard type).demand event with
  | error failure =>
      exact .same
  | ok demand =>
      dsimp only
      rw [Script.bind_eq, play_bind_done]
      · cases demand with
        | launch order =>
            exact advance_launch order w
        | revision own order =>
            rw [EventHandler.guard_demand asked]
            exact advance_revision order w
      · intro result
        cases result <;> exact ⟨_, rfl⟩

theorem advance_dispatch (event : RocketEvent) (w : World L C Fleet) :
    w.rockets.Advance guard (play ((EventBus.full guard).dispatch event) w).2.rockets := by
  have typed : Input.type event = event.kind.type.name := rfl
  simp only [Bus.dispatch, typed, EventBus.handler?_full]
  rw [Script.bind_eq, play_bind_done]
  · exact advance_handle event.kind.type event w
  · intro result
    exact ⟨_, rfl⟩

/-- Under a lock the handler is played in a world with the same rockets, or not at all. -/
theorem advance_dispatchExclusively (m : Mutex) (event : RocketEvent) (w : World L C Fleet) :
    w.rockets.Advance guard
      (play ((EventBus.full guard).dispatchExclusively m event) w).2.rockets := by
  rw [dispatchExclusively_of_some m (EventBus.handler?_full guard event.kind.type),
    play_bind_done fun result => ⟨_, rfl⟩]
  rcases notBegun_or_begun m event.lockKey
      ((EventHandler.ofType guard event.kind.type).handle event) w with
    unbegun | ⟨before, after, held, begun⟩
  · rw [unbegun.rockets]
    exact .same
  · rw [begun.rockets, ← begun.heldRockets]
    exact advance_handle event.kind.type event held

theorem advance_served (w : World L C Fleet) (request : RocketRequest) :
    w.rockets.Advance guard (w.served guard request).rockets := by
  unfold served
  cases request with
  | launch order =>
      exact advance_launch order w
  | revise order =>
      exact advance_revision order w
  | dispatch event =>
      exact advance_dispatch event w
  | dispatchExclusively m event =>
      exact advance_dispatchExclusively m event w

/-! ## Any history -/

theorem sound_servedAll (requests : List RocketRequest) {w : World L C Fleet}
    (h : w.rockets.Sound guard) : (w.servedAll guard requests).rockets.Sound guard := by
  unfold servedAll
  induction requests generalizing w with
  | nil =>
      exact h
  | cons request rest ih =>
      exact ih ((advance_served w request).sound h)

theorem precedes_servedAll (guard : Guard) (requests : List RocketRequest) (w : World L C Fleet) :
    w.rockets.Precedes guard (w.servedAll guard requests).rockets := by
  unfold servedAll
  induction requests generalizing w with
  | nil =>
      exact .refl guard w.rockets
  | cons request rest ih =>
      exact (advance_served w request).precedes.trans (ih (w.served guard request))

/-- No call shows the rocket under a text: it is not found, not revised and not listed. -/
structure Unseen (guard : Guard) (w : World L C Fleet) (text : String) : Prop where
  unfound : ∀ id : RocketId, id.text = text →
    play (Script.perform (.findRocket id)) w = (.returned (.error (.notFound text)), w)
  unrevised : ∀ order : RevisionOrder, order.id = text →
    ∃ refusal, play (order.carryOut guard) w = (.returned (.error refusal), w)
  unlisted : ∀ key, ∃ rockets,
    play (Script.perform (.listRockets key)) w = (.returned (.ok rockets), w) ∧
      ∀ r ∈ rockets, r.id.text ≠ text

theorem unseen_of_isDeleted {w : World L C Fleet} {text : String} {r : Rocket}
    (recorded : w.rockets.recordAt text = some r) (deleted : r.isDeleted = true) :
    w.Unseen guard text := by
  have unfound (id : RocketId) (same : id.text = text) :
      w.rockets.find id = .error (.notFound text) := by
    unfold Fleet.find
    rw [Fleet.record?_eq_recordAt, same, recorded]
    exact if_pos deleted
  constructor
  · intro id same
    have asked : play (Script.perform (.findRocket id)) w =
        (.returned (w.rockets.find id), w) := rfl
    rw [asked, unfound id same]
  · intro order same
    rcases play_revision guard order w with failed | ⟨id, changes, s, valid, found, _⟩
    · exact failed
    · rw [unfound id ((RevisionOrder.text_validate valid).trans same)] at found
      cases found
  · intro key
    refine ⟨w.rockets.listing key, rfl, ?_⟩
    intro s mem same
    have live := (List.mergeSort_perm _ _).mem_iff.mp mem
    rcases List.mem_filter.mp live with ⟨kept, undeleted⟩
    rw [Fleet.mem_records_iff, same, recorded] at kept
    cases kept
    rw [deleted] at undeleted
    cases undeleted

/--
From an empty fleet, whatever is asked for and whatever the lock store does: in every state all
records are sound and stand under their own identifiers, in every later one each of them is followed
by one of the same rocket, and a rocket that was deleted is not seen again.
-/
theorem rockets_live_once (guard : Guard) (start : World L C Fleet)
    (empty : start.rockets = .empty) (earlier later : List RocketRequest) :
    (start.servedAll guard earlier).rockets.Sound guard ∧
      (start.servedAll guard earlier).rockets.Precedes guard
        (start.servedAll guard (earlier ++ later)).rockets ∧
      ∀ text r, (start.servedAll guard earlier).rockets.recordAt text = some r →
        r.isDeleted = true → (start.servedAll guard (earlier ++ later)).Unseen guard text := by
  have split : start.servedAll guard (earlier ++ later) =
      (start.servedAll guard earlier).servedAll guard later := List.foldl_append
  have precedes := precedes_servedAll guard later (start.servedAll guard earlier)
  rw [split]
  refine ⟨?_, precedes, ?_⟩
  · apply sound_servedAll
    rw [empty]
    exact Fleet.sound_empty guard
  · intro text r recorded deleted
    rcases precedes text r recorded with ⟨follower, found, follows⟩
    rw [follows.ended deleted] at found
    exact unseen_of_isDeleted found deleted

def launchedAndLost : List RocketRequest :=
  [.launch { id := acceleration.rocketId, rocketType := "Falcon-9", speed := 500
             mission := "ARTEMIS", time := ⟨1643827206, 0⟩ },
    .dispatchExclusively {} acceleration,
    .dispatch (.ofFields (.exploded "PRESSURE_VESSEL_FAILURE") acceleration.rocketId 3
      (some ⟨1643827204, 0⟩))]

def askedForAgain : List RocketRequest :=
  [.launch { id := acceleration.rocketId, rocketType := "Saturn-V", speed := 900
             mission := "APOLLO", time := .epoch },
    .revise { id := acceleration.rocketId, changes := [⟨.speed 100, some .epoch⟩] }]

def unlaunched : World AnyLocks ClaimRecords Fleet :=
  { locks := .unreleasable, claims := .start .epoch, rockets := .empty, clock := .standing .epoch }

theorem lost_rocket_unseen :
    unlaunched.rockets = .empty ∧
      ((unlaunched.servedAll .notAfter launchedAndLost).rockets.recordAt
        acceleration.rocketId).map (fun r => (r.speed, r.deletedAt)) =
          some (3500, some ⟨1643827204, 0⟩) ∧
      (unlaunched.servedAll .notAfter (launchedAndLost ++ askedForAgain)).rockets =
        (unlaunched.servedAll .notAfter launchedAndLost).rockets ∧
      (unlaunched.servedAll .notAfter (launchedAndLost ++ askedForAgain)).Unseen .notAfter
        acceleration.rocketId := by
  have lost : ((unlaunched.servedAll .notAfter launchedAndLost).rockets.recordAt
      acceleration.rocketId).map (fun r => (r.speed, r.deletedAt)) =
        some (3500, some ⟨1643827204, 0⟩) := by
    decide +kernel
  refine ⟨rfl, lost, by decide +kernel, ?_⟩
  rcases Option.map_eq_some_iff.mp lost with ⟨r, recorded, fields⟩
  have history := rockets_live_once .notAfter unlaunched rfl launchedAndLost askedForAgain
  have ended : r.deletedAt = some ⟨1643827204, 0⟩ := congrArg Prod.snd fields
  apply history.2.2 acceleration.rocketId r recorded
  rw [Rocket.isDeleted, ended]
  rfl

end World
end MissionControl
