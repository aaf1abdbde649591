import MissionControl.Proofs.Rocket.Batches

/-!
# Changes that events ask for

An event that is no launch asks for one change to its rocket, as long as its values keep the rules;
otherwise it is refused whatever the store holds.  Events of a rocket on record, dispatched one
after another, make of the record what their changes make of it.
-/

namespace MissionControl

/-! ## Edits -/

namespace SpeedChange

def ofAmount? (amount step : Int) : Option SpeedChange :=
  if 0 ≤ amount then (parse step).toOption else none

theorem exists_of_ranged {amount step : Int} (positive : 0 ≤ amount) (short : amount ≤ speedLimit)
    (steps : step = amount ∨ step = -amount) :
    ∃ change, ofAmount? amount step = some change ∧ change.value = step := by
  have ranged : -speedLimit ≤ step ∧ step ≤ speedLimit := by
    unfold speedLimit at *
    omega
  refine ⟨⟨step, ranged⟩, ?_, rfl⟩
  unfold ofAmount? parse
  rw [if_pos positive, dif_pos ranged]
  rfl

theorem ofAmount?_of_unranged {amount step : Int} (unranged : ¬(0 ≤ amount ∧ amount ≤ speedLimit))
    (steps : step = amount ∨ step = -amount) : ofAmount? amount step = none := by
  unfold ofAmount? parse
  by_cases positive : 0 ≤ amount
  · have long : ¬(-speedLimit ≤ step ∧ step ≤ speedLimit) := by
      unfold speedLimit at *
      omega
    rw [if_pos positive, dif_neg long]
    rfl
  · exact if_neg positive

end SpeedChange

def EditRequest.edit? : EditRequest → Option Edit
  | speed change => (SpeedChange.parse change).toOption.map .speed
  | mission text => (Mission.parse text).toOption.map .mission
  | deletion => some .deletion

def EventKind.edit? : EventKind → Option Edit
  | launched _ _ _ => none
  | exploded _ => some .deletion
  | missionChanged newMission => (Mission.parse newMission).toOption.map .mission
  | speedIncreased amount => (SpeedChange.ofAmount? amount.toInt amount.toInt).map .speed
  | speedDecreased amount => (SpeedChange.ofAmount? amount.toInt (-amount.toInt)).map .speed

def RocketEvent.change? (event : RocketEvent) : Option Change :=
  event.kind.edit?.map fun edit => { edit := edit, time := event.time }

theorem EventKind.edit?_of_launched {kind : EventKind} (launches : kind.type = .launched) :
    kind.edit? = none := by
  cases kind with
  | launched rocketType launchSpeed mission =>
      rfl
  | exploded reason =>
      cases launches
  | missionChanged newMission =>
      cases launches
  | speedIncreased amount =>
      cases launches
  | speedDecreased amount =>
      cases launches

theorem ChangeRequest.toOption_validate (request : ChangeRequest) :
    request.validate.toOption =
      request.edit.edit?.map fun edit => { edit := edit, time := request.time } := by
  rcases request with ⟨edit, time⟩
  cases edit with
  | speed change =>
      dsimp only [validate, EditRequest.edit?]
      cases SpeedChange.parse change <;> rfl
  | mission text =>
      dsimp only [validate, EditRequest.edit?]
      cases Mission.parse text <;> rfl
  | deletion =>
      rfl

/-! ## Demands -/

namespace EventHandler

/-- What an event may ask of the handler for its type. -/
inductive Asks (guard : Guard) (event : RocketEvent) : Except HandlerFault Demand → Prop where
  | launch {asked : Except HandlerFault Demand} :
      event.kind.type = .launched → Asks guard event asked
  | nothing {violation : Violation} : event.kind.type ≠ .launched →
      event.change? = none → Asks guard event (.error (.refused (.brokenRule violation)))
  | edit {request : EditRequest} : event.kind.type ≠ .launched →
      request.edit? = event.kind.edit? → Asks guard event (.ok (change guard event request))

theorem asks_amount (guard : Guard) {event : RocketEvent} {amount : Int64} (step : Int → Int)
    (unlaunched : event.kind.type ≠ .launched)
    (edits : event.kind.edit? =
      (SpeedChange.ofAmount? amount.toInt (step amount.toInt)).map .speed) :
    Asks guard event
      ((amountOf amount).map fun amount => change guard event (.speed (step amount))) := by
  unfold amountOf
  unfold SpeedChange.ofAmount? at edits
  by_cases negative : amount.toInt < 0
  · rw [if_pos negative]
    rw [if_neg (Int.not_le.mpr negative)] at edits
    refine .nothing unlaunched ?_
    rw [RocketEvent.change?, edits]
    rfl
  · rw [if_neg negative]
    rw [if_pos (Int.not_lt.mp negative)] at edits
    exact .edit unlaunched edits.symm

theorem asks_demand (guard : Guard) (event : RocketEvent) :
    Asks guard event ((ofType guard event.kind.type).demand event) := by
  rcases event with ⟨kind, eventId, rocketId, number, time⟩
  cases kind with
  | launched rocketType launchSpeed mission =>
      exact .launch rfl
  | exploded reason =>
      exact .edit EventType.noConfusion rfl
  | missionChanged newMission =>
      exact .edit EventType.noConfusion rfl
  | speedIncreased amount =>
      exact asks_amount guard (fun amount => amount) EventType.noConfusion rfl
  | speedDecreased amount =>
      exact asks_amount guard (fun amount => -amount) EventType.noConfusion rfl

end EventHandler

/-! ## Handling -/

namespace World

variable {L C : Type} [LockStore L] [ClaimStore C] {guard : Guard} {event : RocketEvent}
  {w : World L C Fleet} {r : Rocket}

theorem play_handle_of_no_change (guard : Guard) (w : World L C Fleet)
    (unlaunched : event.kind.type ≠ .launched) (unchanged : event.change? = none) :
    ∃ violation, play ((EventHandler.ofType guard event.kind.type).handle event) w =
      (.returned (.error (.refused (.brokenRule violation))), w) := by
  have asks := EventHandler.asks_demand guard event
  generalize asked : (EventHandler.ofType guard event.kind.type).demand event = demand at asks
  cases asks with
  | launch launches =>
      exact absurd launches unlaunched
  | @nothing violation _ none =>
      refine ⟨violation, ?_⟩
      unfold EventHandler.handle
      rw [asked]
      rfl
  | @edit request _ edits =>
      have invalid := ChangeRequest.toOption_validate { edit := request, time := event.time }
      rw [edits] at invalid
      have rejected : ∃ violation, RevisionOrder.validate
          ⟨event.rocketId, [{ edit := request, time := event.time }]⟩ = .error violation := by
        unfold RevisionOrder.validate
        cases RocketId.parse event.rocketId with
        | error violation =>
            exact ⟨violation, rfl⟩
        | ok id =>
            rw [ok_bind, List.mapM_cons]
            cases valid : ChangeRequest.validate { edit := request, time := event.time } with
            | error violation =>
                exact ⟨violation, rfl⟩
            | ok change =>
                rw [valid] at invalid
                exact absurd (invalid.trans unchanged) (Option.some_ne_none change)
      rcases rejected with ⟨violation, rejected⟩
      exact ⟨violation, play_handle_of_demand asked (play_revision_of_rejected guard rejected w)⟩

theorem play_handle_of_change {change : Change} (changes : event.change? = some change)
    (recorded : w.rockets.recordAt event.rocketId = some r) :
    play ((EventHandler.ofType guard event.kind.type).handle event) w =
      (.returned (answered (if r.isDeleted then .error (.notFound event.rocketId)
          else .ok (r.revise guard change))),
        { w with rockets := w.rockets.save (r.revise guard change) }) := by
  have named : RocketId.parse event.rocketId = .ok r.id := by
    rw [← Fleet.text_of_recordAt recorded]
    exact r.id.parse_text
  have asks := EventHandler.asks_demand guard event
  generalize asked : (EventHandler.ofType guard event.kind.type).demand event = demand at asks
  cases asks with
  | launch launches =>
      rw [RocketEvent.change?, EventKind.edit?_of_launched launches] at changes
      cases changes
  | nothing _ none =>
      rw [changes] at none
      cases none
  | @edit request _ edits =>
      have valid := ChangeRequest.toOption_validate { edit := request, time := event.time }
      rw [edits] at valid
      exact play_handle_of_demand asked
        (play_single_revision named (eq_ok_of_toOption_eq_some (valid.trans changes)) recorded)

theorem play_handle_of_launched (guard : Guard) (launches : event.kind.type = .launched)
    (recorded : w.rockets.recordAt event.rocketId = some r) :
    ∃ failure, play ((EventHandler.ofType guard event.kind.type).handle event) w =
      (.returned (.error failure), w) := by
  cases asked : (EventHandler.ofType guard event.kind.type).demand event with
  | error failure =>
      refine ⟨failure, ?_⟩
      unfold EventHandler.handle
      rw [asked]
      rfl
  | ok demand =>
      cases demand with
      | launch order =>
          rcases play_launch order w with ⟨cause, played⟩ | ⟨s, valid, unknown, played⟩
          · exact ⟨_, play_handle_of_demand asked played⟩
          · have named := (LaunchOrder.text_validate valid).trans
              (EventHandler.rocketId_demand asked)
            rw [Fleet.isKnown_eq_isSome, named, recorded] at unknown
            cases unknown
      | revision own order =>
          rw [launches] at asked
          rcases EventHandler.exists_of_demand_revision asked with other | other
          · cases other
          · cases other

theorem recordAt_dispatch (guard : Guard) (recorded : w.rockets.recordAt event.rocketId = some r) :
    (play ((EventBus.full guard).dispatch event) w).2.rockets.recordAt event.rocketId =
      some (r.reviseAll guard event.change?.toList) := by
  cases changes : event.change? with
  | some change =>
      rw [play_dispatch_of_handle (play_handle_of_change changes recorded)]
      exact Fleet.recordAt_save_revise recorded guard change
  | none =>
      by_cases launches : event.kind.type = .launched
      · rcases play_handle_of_launched guard launches recorded with ⟨failure, played⟩
        rw [play_dispatch_of_handle played]
        exact recorded
      · rcases play_handle_of_no_change guard w launches changes with ⟨violation, played⟩
        rw [play_dispatch_of_handle played]
        exact recorded

/-- Events of a rocket on record make of it what their changes make of it. -/
theorem recordAt_dispatches (guard : Guard) {text : String} {events : List RocketEvent}
    (own : ∀ event ∈ events, event.rocketId = text)
    (recorded : w.rockets.recordAt text = some r) :
    (w.servedAll guard (events.map .dispatch)).rockets.recordAt text =
      some (r.reviseAll guard (events.filterMap RocketEvent.change?)) := by
  induction events generalizing r w with
  | nil =>
      exact recorded
  | cons event rest ih =>
      rcases List.forall_mem_cons.mp own with ⟨first, others⟩
      rw [← first] at recorded
      have handled := recordAt_dispatch guard recorded
      rw [first] at handled
      have split : (event :: rest).filterMap RocketEvent.change? =
          event.change?.toList ++ rest.filterMap RocketEvent.change? := by
        rw [List.filterMap_cons]
        cases event.change? <;> rfl
      rw [split, Rocket.reviseAll, List.foldl_append]
      exact ih others handled

end World
end MissionControl
