import MissionControl.Proofs.Rocket.History

/-!
# Replayed events

An event that was handled under the strict guard is spent: its rocket is on record, and the event
asks for nothing that would still count.  A spent event stays spent, whatever the fleet goes through
later, so to dispatch it again changes no record.
-/

namespace MissionControl

/-! ## Spent changes -/

namespace Rocket

theorem updatedAt_edited (r : Rocket) (edit : Edit) (time : Instant) :
    (r.edited edit time).updatedAt = time := by
  cases edit <;> rfl

theorem admitted?_revise (r : Rocket) (change : Change) :
    (r.revise .strictlyAfter change).admitted? .strictlyAfter change = none := by
  unfold revise
  cases counted : r.admitted? .strictlyAfter change with
  | none =>
      exact counted
  | some time =>
      rcases Option.filter_eq_some_iff.mp counted with ⟨timed, _⟩
      dsimp only
      have late : Guard.strictlyAfter.admits time time = false :=
        decide_eq_false (Instant.not_lt.mpr (Instant.le_refl time))
      rw [admitted?, timed, updatedAt_edited]
      simp [Option.filter, late]

/-- A change that does not count any more never does again. -/
theorem Precedes.admitted?_eq_none {earlier later : Rocket}
    (h : earlier.Precedes .strictlyAfter later) {change : Change}
    (spent : earlier.admitted? .strictlyAfter change = none) :
    later.admitted? .strictlyAfter change = none := by
  unfold admitted? at spent ⊢
  cases timed : change.time with
  | none =>
      rfl
  | some time =>
      rw [timed] at spent
      apply Option.filter_eq_none_iff.mpr
      intro counted same admitted
      cases same
      rcases Bool.and_eq_true_iff.mp admitted with ⟨live, after⟩
      have after : later.updatedAt < time := of_decide_eq_true after
      apply Option.filter_eq_none_iff.mp spent time rfl
      apply Bool.and_eq_true_iff.mpr
      constructor
      · -- had the rocket been deleted before, it would still be
        cases deleted : earlier.isDeleted with
        | false =>
            rfl
        | true =>
            rw [h.ended deleted, deleted] at live
            cases live
      · apply decide_eq_true
        rw [← Instant.not_le] at after ⊢
        intro reached
        exact after (Instant.le_trans reached h.moved)

end Rocket

theorem Fleet.save_of_recordAt {fleet : Fleet} {r : Rocket}
    (h : fleet.recordAt r.id.text = some r) : fleet.save r = fleet := by
  apply ext_recordAt
  intro text
  rw [recordAt_save]
  split
  · rename_i here
    rw [here, h]
  · rfl

/-! ## Spent events -/

namespace EventHandler

theorem singleton_of_demand {handler : EventHandler} {own : Guard} {event : RocketEvent}
    {order : RevisionOrder} (h : handler.demand event = .ok (.revision own order)) :
    ∃ request, order.changes = [request] := by
  unfold demand at h
  split at h
  · split at h
    · cases h
    · cases h
  · cases h
    exact ⟨_, rfl⟩
  · cases h
    exact ⟨_, rfl⟩
  · rcases exists_of_map_eq_ok h with ⟨amount, _, same⟩
    cases same
    exact ⟨_, rfl⟩
  · rcases exists_of_map_eq_ok h with ⟨amount, _, same⟩
    cases same
    exact ⟨_, rfl⟩
  · cases h

end EventHandler

theorem RevisionOrder.singleton_validate {order : RevisionOrder} {request : ChangeRequest}
    {id : RocketId} {changes : List Change} (single : order.changes = [request])
    (h : order.validate = .ok (id, changes)) : ∃ change, changes = [change] := by
  rcases exists_of_bind_eq_ok h with ⟨parsed, _, h⟩
  rcases exists_of_bind_eq_ok h with ⟨checked, mapped, h⟩
  cases h
  rw [single, List.mapM_cons] at mapped
  rcases exists_of_bind_eq_ok mapped with ⟨change, _, mapped⟩
  cases mapped
  exact ⟨change, rfl⟩

/-- What is asked for by an event was done, or came too late, so that it does not count again. -/
inductive Spent (event : RocketEvent) (fleet : Fleet) : Prop where
  | launch {order : LaunchOrder} {launched r : Rocket} :
      (EventHandler.ofType .strictlyAfter event.kind.type).demand event = .ok (.launch order) →
      order.validate = .ok launched → fleet.recordAt event.rocketId = some r → Spent event fleet
  | change {order : RevisionOrder} {id : RocketId} {change : Change} {r : Rocket} :
      (EventHandler.ofType .strictlyAfter event.kind.type).demand event =
        .ok (.revision .strictlyAfter order) →
      order.validate = .ok (id, [change]) → fleet.recordAt event.rocketId = some r →
      r.admitted? .strictlyAfter change = none → Spent event fleet

theorem Spent.later {event : RocketEvent} {earlier later : Fleet} (h : Spent event earlier)
    (precedes : earlier.Precedes .strictlyAfter later) : Spent event later := by
  cases h with
  | launch asked valid recorded =>
      rcases precedes _ _ recorded with ⟨follower, found, _⟩
      exact .launch asked valid found
  | change asked valid recorded spent =>
      rcases precedes _ _ recorded with ⟨follower, found, follows⟩
      exact .change asked valid found (follows.admitted?_eq_none spent)

namespace World

variable {L C : Type} [LockStore L] [ClaimStore C] {event : RocketEvent}

/-! ## Handlers -/

def answered : Except Refusal Rocket → Except HandlerFault Unit
  | .error cause => .error (.refused cause)
  | .ok _ => .ok ()

theorem play_handle_of_demand {handler : EventHandler} {demand : EventHandler.Demand}
    {w w' : World L C Fleet} {result : Except Refusal Rocket}
    (asked : handler.demand event = .ok demand)
    (played : play demand.carryOut w = (.returned result, w')) :
    play (handler.handle event) w = (.returned (answered result), w') := by
  unfold EventHandler.handle
  rw [asked]
  dsimp only
  rw [Script.bind_eq, play_bind_of_returned played]
  cases result <;> rfl

theorem spent_of_handled {w : World L C Fleet}
    (h : (play ((EventHandler.ofType .strictlyAfter event.kind.type).handle event) w).1 =
      .returned (.ok ())) :
    Spent event
      (play ((EventHandler.ofType .strictlyAfter event.kind.type).handle event) w).2.rockets := by
  cases asked : (EventHandler.ofType .strictlyAfter event.kind.type).demand event with
  | error failure =>
      unfold EventHandler.handle at h
      rw [asked] at h
      cases h
  | ok demand =>
      have named := EventHandler.rocketId_demand asked
      cases demand with
      | launch order =>
          rcases play_launch order w with ⟨cause, played⟩ | ⟨r, valid, _, played⟩
          · rw [play_handle_of_demand asked played] at h
            cases h
          · rw [play_handle_of_demand asked played]
            refine .launch asked valid (r := r) ?_
            show (w.rockets.save r).recordAt event.rocketId = _
            rw [Fleet.recordAt_save, if_pos]
            exact named.symm.trans (LaunchOrder.text_validate valid).symm
      | revision own order =>
          cases EventHandler.guard_demand asked
          rcases play_revision .strictlyAfter order w with
            ⟨cause, played⟩ | ⟨id, changes, r, valid, found, played⟩
          · rw [play_handle_of_demand asked played] at h
            cases h
          · rw [play_handle_of_demand asked played]
            rcases EventHandler.singleton_of_demand asked with ⟨request, single⟩
            rcases RevisionOrder.singleton_validate single valid with ⟨change, rfl⟩
            refine .change asked valid (r := r.revise .strictlyAfter change) ?_
              (r.admitted?_revise change)
            show (w.rockets.save (r.revise .strictlyAfter change)).recordAt event.rocketId = _
            rw [Fleet.recordAt_save, if_pos]
            rw [Rocket.id_revise, Fleet.text_of_find found, RevisionOrder.text_validate valid]
            exact named.symm

/-- How a spent event may be answered: as handled, or by what became of its rocket. -/
def Waved (event : RocketEvent) (result : Except HandlerFault Unit) : Prop :=
  result = .ok () ∨ result = .error (.refused (.alreadyKnown event.rocketId)) ∨
    result = .error (.refused (.notFound event.rocketId))

theorem play_handle_of_spent {w : World L C Fleet} (h : Spent event w.rockets) :
    ∃ result, Waved event result ∧
      play ((EventHandler.ofType .strictlyAfter event.kind.type).handle event) w =
        (.returned result, w) := by
  cases h with
  | @launch order launched r asked valid recorded =>
      have text := (LaunchOrder.text_validate valid).trans (EventHandler.rocketId_demand asked)
      have known : w.rockets.isKnown launched.id = true := by
        rw [Fleet.isKnown_eq_isSome, text, recorded]
        rfl
      have played := play_launch_of_known valid known
      rw [text] at played
      exact ⟨_, .inr (.inl rfl), play_handle_of_demand asked played⟩
  | @change order id change r asked valid recorded spent =>
      have text := (RevisionOrder.text_validate valid).trans (EventHandler.rocketId_demand asked)
      rw [← text] at recorded
      have found := recorded
      rw [← Fleet.record?_eq_recordAt] at found
      cases deleted : r.isDeleted with
      | true =>
          have gone : w.rockets.find id = .error (.notFound event.rocketId) := by
            rw [Fleet.find, found, ← text]
            exact if_pos deleted
          have played := play_revision_of_find .strictlyAfter valid gone
          exact ⟨_, .inr (.inr rfl), play_handle_of_demand asked played⟩
      | false =>
          have live : w.rockets.find id = .ok r := by
            rw [Fleet.find, found]
            exact if_neg (by rw [deleted]; exact Bool.false_ne_true)
          have played := play_revision_of_find .strictlyAfter valid live
          have idle : r.reviseAll .strictlyAfter [change] = r := by
            show r.revise .strictlyAfter change = r
            unfold Rocket.revise
            rw [spent]
          have same : w.rockets.save r = w.rockets := by
            apply Fleet.save_of_recordAt
            rw [Fleet.text_of_recordAt recorded, recorded]
          dsimp only at played
          rw [idle, same] at played
          exact ⟨_, .inl rfl, play_handle_of_demand asked played⟩

/-! ## Dispatches -/

def dispatching (guard : Guard) (mutex : Option Mutex) (event : RocketEvent) :
    Script (Except BusFault Unit) :=
  match mutex with
  | none => (EventBus.full guard).dispatch event
  | some m => (EventBus.full guard).dispatchExclusively m event

theorem play_dispatch_of_handle {guard : Guard} {w w' : World L C Fleet}
    {result : Except HandlerFault Unit}
    (played : play ((EventHandler.ofType guard event.kind.type).handle event) w =
      (.returned result, w')) :
    play ((EventBus.full guard).dispatch event) w =
      (.returned (result.mapError (.ofHandler event.kind.type.name)), w') := by
  rw [dispatch_of_some (EventBus.handler?_full guard event.kind.type),
    play_bind_of_returned played]
  rfl

theorem exists_begun_of_ok {ε α : Type} {m : Mutex} {key : String}
    {operation : Script (Except ε α)} {w : World L C Fleet} {result : Except ε α}
    (told : (play (m.exclusively key operation) w).1 = .returned (.ok result)) :
    ∃ before after held, Begun m key operation w before after held ∧
      (play operation held).1 = .returned result := by
  have ended := exclusively_ended m key operation w
  rw [told] at ended
  generalize same : Outcome.returned (Except.ok result) = outcome at ended
  cases ended with
  | broken unbegun panics =>
      cases same
  | keptOut unbegun calm =>
      cases same
  | @settled before after held released begun calm =>
      refine ⟨before, after, held, begun, ?_⟩
      have settled := Outcome.returned.inj same
      cases released with
      | error cause =>
          cases settled
      | ok back =>
          cases ran : (play operation held).1 with
          | panicked message =>
              rw [ran] at settled
              cases settled
          | returned own =>
              rw [ran] at settled
              cases settled
              rfl
  | snapped begun panics =>
      cases same

theorem lockFailed_or_begun {guard : Guard} {m : Mutex} {w : World L C Fleet}
    {result : Except BusFault Unit}
    (told : (play ((EventBus.full guard).dispatchExclusively m event) w).1 = .returned result) :
    (∃ cause, result = .error (.lockFailed event.kind.type.name cause)) ∨
      ∃ before after held own,
        Begun m event.lockKey ((EventHandler.ofType guard event.kind.type).handle event) w
          before after held ∧
        (play ((EventHandler.ofType guard event.kind.type).handle event) held).1 =
          .returned own ∧
        result = own.mapError (.ofHandler event.kind.type.name) := by
  rw [dispatchExclusively_of_some m (EventBus.handler?_full guard event.kind.type)] at told
  cases comes : play (m.exclusively event.lockKey
      ((EventHandler.ofType guard event.kind.type).handle event)) w with
  | mk outcome left =>
      cases outcome with
      | panicked message =>
          rw [play_bind_of_panicked comes] at told
          cases told
      | returned passed =>
          rw [play_bind_of_returned comes] at told
          cases told
          cases passed with
          | error cause =>
              exact .inl ⟨cause, rfl⟩
          | ok own =>
              rcases exists_begun_of_ok (congrArg Prod.fst comes) with
                ⟨before, after, held, begun, ran⟩
              exact .inr ⟨before, after, held, own, begun, ran, rfl⟩

theorem world_dispatchExclusively (guard : Guard) (m : Mutex) (event : RocketEvent)
    (w : World L C Fleet) :
    (play ((EventBus.full guard).dispatchExclusively m event) w).2 =
      (play (m.exclusively event.lockKey
        ((EventHandler.ofType guard event.kind.type).handle event)) w).2 := by
  rw [dispatchExclusively_of_some m (EventBus.handler?_full guard event.kind.type)]
  exact play_bind_done (fun _ => ⟨_, rfl⟩) w

theorem spent_of_dispatched {w : World L C Fleet} (mutex : Option Mutex)
    (told : (play (dispatching .strictlyAfter mutex event) w).1 = .returned (.ok ())) :
    Spent event (play (dispatching .strictlyAfter mutex event) w).2.rockets := by
  cases mutex with
  | none =>
      rcases play_handle (.ofType .strictlyAfter event.kind.type) event w with
        ⟨failure, played⟩ | ⟨r, _, played⟩
      · rw [dispatching, play_dispatch_of_handle played] at told
        cases told
      · have spent := spent_of_handled (congrArg Prod.fst played)
        rw [played] at spent
        rw [dispatching, play_dispatch_of_handle played]
        exact spent
  | some m =>
      rw [dispatching] at told ⊢
      rcases lockFailed_or_begun told with
        ⟨cause, failed⟩ | ⟨before, after, held, own, begun, ran, same⟩
      · cases failed
      · cases own with
        | error failure =>
            cases same
        | ok value =>
            rw [world_dispatchExclusively, begun.rockets]
            exact spent_of_handled ran

/-- How the dispatch of a spent event may be answered, unless its lock fails. -/
def WavedOff (event : RocketEvent) (result : Except BusFault Unit) : Prop :=
  result = .ok () ∨
    result = .error (.handlerFailed event.kind.type.name (.alreadyKnown event.rocketId)) ∨
    result = .error (.handlerFailed event.kind.type.name (.notFound event.rocketId))

theorem Waved.off {result : Except HandlerFault Unit} (h : Waved event result) :
    WavedOff event (result.mapError (.ofHandler event.kind.type.name)) := by
  rcases h with rfl | rfl | rfl
  · exact .inl rfl
  · exact .inr (.inl rfl)
  · exact .inr (.inr rfl)

/-- To dispatch an event in a world, under the lock of its rocket or not, changes no record. -/
structure Vain (mutex : Option Mutex) (event : RocketEvent) (w : World L C Fleet) : Prop where
  rockets : (play (dispatching .strictlyAfter mutex event) w).2.rockets = w.rockets
  answer : ∀ result, (play (dispatching .strictlyAfter mutex event) w).1 = .returned result →
    WavedOff event result ∨ ∃ cause, result = .error (.lockFailed event.kind.type.name cause)
  /-- Where no lock is asked for there is an answer, and nothing at all changes. -/
  unlocked : mutex = none → ∃ result, WavedOff event result ∧
    play (dispatching .strictlyAfter mutex event) w = (.returned result, w)

theorem vain_unlocked {w : World L C Fleet} (h : Spent event w.rockets) :
    ∃ result, WavedOff event result ∧
      play (dispatching .strictlyAfter none event) w = (.returned result, w) := by
  rcases play_handle_of_spent h with ⟨result, waved, played⟩
  exact ⟨_, waved.off, play_dispatch_of_handle played⟩

theorem vain_exclusively {w : World L C Fleet} (m : Mutex) (h : Spent event w.rockets) :
    Vain (some m) event w := by
  constructor
  case rockets =>
    rw [dispatching, world_dispatchExclusively]
    rcases notBegun_or_begun m event.lockKey
        ((EventHandler.ofType .strictlyAfter event.kind.type).handle event) w with
      unbegun | ⟨before, after, held, begun⟩
    · exact unbegun.rockets
    · rw [← begun.heldRockets] at h
      rcases play_handle_of_spent h with ⟨result, _, played⟩
      rw [begun.rockets, played, begun.heldRockets]
  case answer =>
    intro result told
    rw [dispatching] at told
    rcases lockFailed_or_begun told with failed | ⟨before, after, held, own, begun, ran, rfl⟩
    · exact .inr failed
    · left
      rw [← begun.heldRockets] at h
      rcases play_handle_of_spent h with ⟨_, waved, played⟩
      rw [played] at ran
      cases ran
      exact waved.off
  case unlocked =>
    intro none
    cases none

theorem vain_of_spent {w : World L C Fleet} (mutex : Option Mutex) (h : Spent event w.rockets) :
    Vain mutex event w := by
  cases mutex with
  | none =>
      rcases vain_unlocked h with ⟨result, waved, played⟩
      constructor
      case rockets =>
        rw [played]
      case answer =>
        intro other told
        rw [played] at told
        cases told
        exact .inl waved
      case unlocked =>
        intro _
        exact ⟨result, waved, played⟩
  | some m =>
      exact vain_exclusively m h

/-! ## Replays -/

/--
Under the strict guard, once an event was dispatched with success, to dispatch it again is in vain,
whatever was asked for in between.
-/
theorem vain_replay (w : World L C Fleet) (event : RocketEvent) (first again : Option Mutex)
    (between : List RocketRequest)
    (told : (play (dispatching .strictlyAfter first event) w).1 = .returned (.ok ())) :
    Vain again event
      ((play (dispatching .strictlyAfter first event) w).2.servedAll .strictlyAfter between) := by
  have spent := spent_of_dispatched first told
  exact vain_of_spent again (spent.later (precedes_servedAll .strictlyAfter between _))

def unchanged : World AnyLocks ClaimRecords Fleet :=
  { locks := .leases {}, claims := .start .epoch, rockets := oneRocket
    clock := .standing .epoch }

def changedAndLost : List RocketRequest :=
  [.dispatch (.ofFields (.missionChanged "APOLLO") acceleration.rocketId 3
      (some ⟨1643827206, 0⟩)),
    .dispatchExclusively {} (.ofFields (.speedDecreased 1) acceleration.rocketId 4
      (some ⟨1643827205, 0⟩)),
    .dispatch (.ofFields (.exploded "PRESSURE_VESSEL_FAILURE") acceleration.rocketId 5
      (some ⟨1643827207, 0⟩))]

def accelerated : World AnyLocks ClaimRecords Fleet :=
  (play (dispatching .strictlyAfter (some {}) acceleration) unchanged).2

theorem acceleration_replayed_in_vain :
    (play (dispatching .strictlyAfter (some {}) acceleration) unchanged).1 = .returned (.ok ()) ∧
      Vain none acceleration (accelerated.servedAll .strictlyAfter []) ∧
      (play (dispatching .strictlyAfter none acceleration) accelerated).1 = .returned (.ok ()) ∧
      Vain none acceleration (accelerated.servedAll .strictlyAfter changedAndLost) ∧
      (play (dispatching .strictlyAfter none acceleration)
        (accelerated.servedAll .strictlyAfter changedAndLost)).1 = .returned (.error
          (.handlerFailed "RocketSpeedIncreased" (.notFound acceleration.rocketId))) := by
  have told : (play (dispatching .strictlyAfter (some {}) acceleration) unchanged).1 =
      .returned (.ok ()) := by
    decide +kernel
  exact ⟨told, vain_replay unchanged acceleration (some {}) none [] told, by decide +kernel,
    vain_replay unchanged acceleration (some {}) none changedAndLost told, by decide +kernel⟩

end World
end MissionControl
