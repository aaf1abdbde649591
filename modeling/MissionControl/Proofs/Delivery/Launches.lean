import MissionControl.Proofs.Delivery.Answers
import MissionControl.Proofs.Delivery.Channels
import MissionControl.Proofs.Rocket.Listing
import MissionControl.Proofs.Rocket.Replay

/-!
# Deliveries of launches

A launch that is delivered and not claimed is either refused, and then everyone who asks about
rockets is answered as before, or the rocket is shown from then on as it was sent: under its
identifier, and once in every list.  No other rocket is shown in another way, or in another place.
-/

namespace MissionControl

/-! ## Accepted values -/

theorem RocketType.text_parse {text : String} {rocketType : RocketType}
    (h : RocketType.parse text = .ok rocketType) : rocketType.text = text := by
  unfold RocketType.parse at h
  split at h
  · cases h
    rfl
  · cases h

theorem Mission.text_parse {text : String} {mission : Mission}
    (h : Mission.parse text = .ok mission) : mission.text = text := by
  unfold Mission.parse at h
  split at h
  · cases h
    rfl
  · cases h

theorem LaunchSpeed.value_parse {value : Int} {speed : LaunchSpeed}
    (h : LaunchSpeed.parse value = .ok speed) : speed.value = value := by
  unfold LaunchSpeed.parse at h
  split at h
  · cases h
    rfl
  · cases h

/-! ## Launch orders -/

namespace LaunchOrder

variable {order : LaunchOrder} {r : Rocket} {violation : Violation}

def view (order : LaunchOrder) : RocketView :=
  { id := order.id, rocketType := order.rocketType, speed := order.speed, mission := order.mission
    createdAt := order.time, updatedAt := order.time }

/-- Every value of an order passes its check. -/
structure Acceptable (order : LaunchOrder) : Prop where
  id : ∃ id, RocketId.parse order.id = .ok id
  rocketType : ∃ rocketType, RocketType.parse order.rocketType = .ok rocketType
  speed : ∃ speed, LaunchSpeed.parse order.speed = .ok speed
  mission : ∃ mission, Mission.parse order.mission = .ok mission

inductive Breaks (order : LaunchOrder) : Violation → Prop where
  | id {violation : Violation} : RocketId.parse order.id = .error violation →
      Breaks order violation
  | rocketType {violation : Violation} : RocketType.parse order.rocketType = .error violation →
      Breaks order violation
  | speed {violation : Violation} : LaunchSpeed.parse order.speed = .error violation →
      Breaks order violation
  | mission {violation : Violation} : Mission.parse order.mission = .error violation →
      Breaks order violation

theorem breaks_of_validate (h : order.validate = .error violation) : order.Breaks violation := by
  unfold validate at h
  rcases error_or_exists_of_bind_eq_error h with invalid | ⟨id, _, h⟩
  · exact .id invalid
  rcases error_or_exists_of_bind_eq_error h with invalid | ⟨rocketType, _, h⟩
  · exact .rocketType invalid
  rcases error_or_exists_of_bind_eq_error h with invalid | ⟨speed, _, h⟩
  · exact .speed invalid
  rcases error_or_exists_of_bind_eq_error h with invalid | ⟨mission, _, h⟩
  · exact .mission invalid
  · cases h

theorem acceptable_of_validate (h : order.validate = .ok r) : order.Acceptable := by
  rcases exists_of_validate h with
    ⟨id, rocketType, speed, mission, validId, validType, validSpeed, validMission, _⟩
  exact ⟨⟨id, validId⟩, ⟨rocketType, validType⟩, ⟨speed, validSpeed⟩, ⟨mission, validMission⟩⟩

theorem validate_of_acceptable (h : order.Acceptable) : ∃ r, order.validate = .ok r := by
  rcases h.id with ⟨id, validId⟩
  rcases h.rocketType with ⟨rocketType, validType⟩
  rcases h.speed with ⟨speed, validSpeed⟩
  rcases h.mission with ⟨mission, validMission⟩
  unfold validate
  rw [validId, validType, validSpeed, validMission]
  exact ⟨_, rfl⟩

theorem view_validate (h : order.validate = .ok r) : r.view = order.view := by
  rcases exists_of_validate h with
    ⟨id, rocketType, speed, mission, validId, validType, validSpeed, validMission, rfl⟩
  simp only [Rocket.view, Rocket.launch, view, RocketId.text_parse validId,
    RocketType.text_parse validType, LaunchSpeed.value_parse validSpeed,
    Mission.text_parse validMission]

theorem isDeleted_validate (h : order.validate = .ok r) : r.isDeleted = false := by
  rcases exists_of_validate h with ⟨id, rocketType, speed, mission, _, _, _, _, rfl⟩
  rfl

end LaunchOrder

/-! ## New records -/

namespace Fleet

variable {fleet : Fleet} {r : Rocket}

theorem find_save_of_ne {id : RocketId} (apart : id.text ≠ r.id.text) :
    (fleet.save r).find id = fleet.find id := by
  apply find_congr
  rw [recordAt_save, if_neg apart]

theorem find_save (live : r.isDeleted = false) : (fleet.save r).find r.id = .ok r := by
  rw [find_eq_ok_iff, recordAt_save, if_pos rfl]
  exact ⟨rfl, live⟩

theorem isKnown_save (id : RocketId) :
    (fleet.save r).isKnown id = (decide (id.text = r.id.text) || fleet.isKnown id) := by
  rw [isKnown_eq_isSome, isKnown_eq_isSome, recordAt_save]
  by_cases here : id.text = r.id.text <;> simp [here]

/-- A new rocket takes its place in a listing, and the others keep theirs. -/
theorem listing_save (key : SortKey) (live : r.isDeleted = false)
    (new : fleet.recordAt r.id.text = none) :
    ∃ before after, fleet.listing key = before ++ after ∧
      (fleet.save r).listing key = before ++ r :: after := by
  have listed : r ∈ (fleet.save r).listing key := mem_listing_iff.mpr (find_save live)
  rcases List.append_of_mem listed with ⟨before, after, split⟩
  refine ⟨before, after, ?_, split⟩
  have sorted := (fleet.save r).pairwise_listing key
  have views := (fleet.save r).nodup_listing key
  rw [split] at sorted
  rw [split] at views
  have once := List.nodup_cons.mp (List.nodup_middle.mp (List.Nodup.of_map _ views))
  have antisymm : Std.Antisymm key.Puts :=
    ⟨fun a b puts back => absurd (puts.tied back.le) (String.lt_asymm (back.tied puts.le))⟩
  have irrefl : Std.Irrefl key.Puts :=
    ⟨fun a puts => String.lt_irrefl a.id.text (puts.tied puts.le)⟩
  have others : (before ++ after).Pairwise key.Puts :=
    sorted.sublist (List.Sublist.append_left (List.sublist_cons_self r after) before)
  -- both lists are in the strict order of the key, so it is enough that they hold the same rockets
  refine (fleet.pairwise_listing key).eq_of_mem_iff others fun x => ?_
  rw [mem_listing_iff]
  constructor
  · intro found
    have apart : x.id.text ≠ r.id.text := by
      intro same
      rw [find_eq_ok_iff, same, new] at found
      cases found.1
    have there : x ∈ (fleet.save r).listing key :=
      mem_listing_iff.mpr ((find_save_of_ne apart).trans found)
    rw [split] at there
    rcases List.mem_cons.mp (List.perm_middle.mem_iff.mp there) with rfl | mem
    · exact absurd rfl apart
    · exact mem
  · intro mem
    have there : x ∈ (fleet.save r).listing key := by
      rw [split]
      exact List.perm_middle.mem_iff.mpr (List.mem_cons_of_mem r mem)
    have found := mem_listing_iff.mp there
    have apart : x.id.text ≠ r.id.text := by
      intro same
      rw [find_eq_ok_iff, recordAt_save, if_pos same] at found
      cases found.1
      exact once.1 mem
    rwa [find_save_of_ne apart] at found

end Fleet

/-! ## What is shown -/

namespace World

section Shown

variable {L C : Type} [LockStore L] [ClaimStore C] {v w w' : World L C Fleet}

def known (id : RocketId) (w : World L C Fleet) : Outcome (Except Refusal Bool) :=
  (play (Script.perform (.isKnown id)) w).1

theorem known_eq (id : RocketId) (w : World L C Fleet) :
    known id w = .returned (.ok (w.rockets.isKnown id)) := rfl

/-- Everyone who asks about rockets is answered alike in both worlds. -/
structure ShowsAlike (v w : World L C Fleet) : Prop where
  found : ∀ text, found text v = found text w
  known : ∀ id, known id v = known id w
  listed : ∀ token, listed token v = listed token w

theorem found_congr {text : String}
    (same : ∀ id, RocketId.parse text = .ok id → v.rockets.find id = w.rockets.find id) :
    found text v = found text w := by
  cases parsed : RocketId.parse text with
  | error violation =>
      rw [found_of_rejected parsed, found_of_rejected parsed]
  | ok id =>
      rw [found_of_parsed parsed, found_of_parsed parsed, same id parsed]

theorem showsAlike_of_rockets (same : v.rockets = w.rockets) : ShowsAlike v w := by
  constructor
  · intro text
    exact found_congr fun id _ => congrArg (Fleet.find id) same
  · intro id
    rw [known_eq, known_eq, same]
  · intro token
    rw [listed_eq, listed_eq, same]

/-- A view comes to be shown, once in each list, and everything else is shown as before. -/
structure Appears (view : RocketView) (w w' : World L C Fleet) : Prop where
  shown : found view.id w' = .returned (.ok view)
  listedOnce : ∀ token, ∃ before after, listed token w = .returned (.ok (before ++ after)) ∧
    listed token w' = .returned (.ok (before ++ view :: after)) ∧ view ∉ before ++ after
  isKnown : ∀ id : RocketId, id.text = view.id → known id w' = .returned (.ok true)
  foundElsewhere : ∀ text, text ≠ view.id → found text w' = found text w
  knownElsewhere : ∀ id : RocketId, id.text ≠ view.id → known id w' = known id w

theorem appears_of_saved {r : Rocket} (live : r.isDeleted = false)
    (new : w.rockets.recordAt r.id.text = none) (saved : w'.rockets = w.rockets.save r) :
    Appears r.view w w' := by
  constructor
  · show found r.id.text w' = _
    rw [found_of_parsed r.id.parse_text, saved, Fleet.find_save live]
  · intro token
    rcases w.rockets.listing_save (.parse token) live new with ⟨before, after, was, is⟩
    have views := (w.rockets.save r).nodup_listing (.parse token)
    rw [is, List.map_append, List.map_cons] at views
    refine ⟨before.map Rocket.view, after.map Rocket.view, ?_, ?_, ?_⟩
    · rw [listed_eq, was, List.map_append]
    · rw [listed_eq, saved, is, List.map_append, List.map_cons]
    · exact (List.nodup_cons.mp (List.nodup_middle.mp views)).1
  · intro id here
    have same : id.text = r.id.text := here
    rw [known_eq, saved, Fleet.isKnown_save, decide_eq_true same, Bool.true_or]
  · intro text apart
    refine found_congr fun id parsed => ?_
    rw [saved]
    apply Fleet.find_save_of_ne
    rw [RocketId.text_parse parsed]
    exact apart
  · intro id apart
    have other : id.text ≠ r.id.text := apart
    rw [known_eq, known_eq, saved, Fleet.isKnown_save, decide_eq_false other, Bool.false_or]

end Shown

/-! ## Dispatches of launches -/

section Dispatches

variable {L C : Type} [LockStore L] [ClaimStore C] {guard : Guard} {event : RocketEvent}
  {rocketType mission : String} {launchSpeed : Int64} {time : Instant} {w w' : World L C Fleet}

def launchOrder (event : RocketEvent) (rocketType : String) (launchSpeed : Int64)
    (mission : String) (time : Instant) : LaunchOrder :=
  { id := event.rocketId, rocketType := rocketType, speed := launchSpeed.toInt
    mission := mission, time := time }

theorem play_dispatch_untimed (launched : event.kind = .launched rocketType launchSpeed mission)
    (untimed : event.time = none) (w : World L C Fleet) :
    play ((EventBus.full guard).dispatch event) w =
      (.returned (.error (.handlerFailed event.kind.type.name
        (.brokenRule .missingLaunchTime))), w) := by
  have asked : (EventHandler.ofType guard event.kind.type).demand event =
      .error (.refused (.brokenRule .missingLaunchTime)) := by
    simp only [launched, EventKind.type, EventHandler.ofType, EventHandler.demand, untimed]
  have played : play ((EventHandler.ofType guard event.kind.type).handle event) w =
      (.returned (.error (.refused (.brokenRule .missingLaunchTime))), w) := by
    unfold EventHandler.handle
    rw [asked]
    rfl
  exact play_dispatch_of_handle played

theorem play_dispatch_launch {result : Except Refusal Rocket}
    (launched : event.kind = .launched rocketType launchSpeed mission)
    (timed : event.time = some time)
    (played : play (launchOrder event rocketType launchSpeed mission time).carryOut w =
      (.returned result, w')) :
    play ((EventBus.full guard).dispatch event) w =
      (.returned ((answered result).mapError (.ofHandler event.kind.type.name)), w') := by
  have asked : (EventHandler.ofType guard event.kind.type).demand event =
      .ok (.launch (launchOrder event rocketType launchSpeed mission time)) := by
    simp only [launched, EventKind.type, EventHandler.ofType, EventHandler.demand, timed]
    rfl
  exact play_dispatch_of_handle (play_handle_of_demand asked played)

end Dispatches

/-! ## Deliveries -/

variable {guard : Guard} {p : Processor} {event : RocketEvent} {now : Instant}
  {w w' : World Leases ClaimRecords Fleet} {result : Except DeliveryFault String}

theorem Completed.dispatched_of_unclaimed (passes : p.retention.Passes now)
    (unclaimed : w.claims.isLive event.eventId now = false)
    (h : Completed p event now w result w') :
    ∃ told, (play (p.bus.dispatch event) w).1 = .returned told ∧
      result = Processor.told event.eventId told ∧
      w'.rockets = (play (p.bus.dispatch event) w).2.rockets := by
  have granted := ClaimRecords.claim_of_passes passes event.eventId w.claims
  rw [unclaimed] at granted
  cases h with
  | unclaimed outcome refused _ _ =>
      exact absurd (outcome.symm.trans granted) refused
  | dispatched _ plain _ rockets =>
      exact ⟨_, plain, rfl, rockets⟩

/-- A delivery tells that its event was refused for a cause, and nothing is shown otherwise. -/
structure RefusedUnseen (event : RocketEvent) (cause : Refusal)
    (w : World Leases ClaimRecords Fleet) (result : Except DeliveryFault String)
    (w' : World Leases ClaimRecords Fleet) : Prop where
  told : result =
    .error (.notDispatched event.eventId (.handlerFailed event.kind.type.name cause))
  unseen : ShowsAlike w' w

/-- A delivery tells that its event was handled, and a view comes to be shown. -/
structure HandledSeen (event : RocketEvent) (view : RocketView)
    (w : World Leases ClaimRecords Fleet) (result : Except DeliveryFault String)
    (w' : World Leases ClaimRecords Fleet) : Prop where
  told : result = .ok event.eventId
  appears : Appears view w w'

/-- How the delivery of a launch is answered, and what is shown of it. -/
structure LaunchAnswered (event : RocketEvent) (rocketType : String) (launchSpeed : Int64)
    (mission : String) (w : World Leases ClaimRecords Fleet)
    (result : Except DeliveryFault String) (w' : World Leases ClaimRecords Fleet) : Prop where
  untimed : event.time = none →
    RefusedUnseen event (.brokenRule .missingLaunchTime) w result w'
  invalid : ∀ time, event.time = some time →
    ¬(launchOrder event rocketType launchSpeed mission time).Acceptable →
    ∃ violation, (launchOrder event rocketType launchSpeed mission time).Breaks violation ∧
      RefusedUnseen event (.brokenRule violation) w result w'
  known : ∀ time, event.time = some time →
    (launchOrder event rocketType launchSpeed mission time).Acceptable →
    (w.rockets.recordAt event.rocketId).isSome = true →
    RefusedUnseen event (.alreadyKnown event.rocketId) w result w'
  fresh : ∀ time, event.time = some time →
    (launchOrder event rocketType launchSpeed mission time).Acceptable →
    w.rockets.recordAt event.rocketId = none →
    HandledSeen event (launchOrder event rocketType launchSpeed mission time).view w result w'

theorem refusedUnseen_of_dispatch {cause : Refusal} {told : Except BusFault Unit}
    (played : play (p.bus.dispatch event) w =
      (.returned (.error (.handlerFailed event.kind.type.name cause)), w))
    (plain : (play (p.bus.dispatch event) w).1 = .returned told)
    (rockets : w'.rockets = (play (p.bus.dispatch event) w).2.rockets) :
    RefusedUnseen event cause w (Processor.told event.eventId told) w' := by
  rw [played] at plain rockets
  cases plain
  exact ⟨rfl, showsAlike_of_rockets rockets⟩

theorem handledSeen_of_dispatch {r : Rocket} {told : Except BusFault Unit}
    (live : r.isDeleted = false) (new : w.rockets.recordAt r.id.text = none)
    (played : play (p.bus.dispatch event) w =
      (.returned (.ok ()), { w with rockets := w.rockets.save r }))
    (plain : (play (p.bus.dispatch event) w).1 = .returned told)
    (rockets : w'.rockets = (play (p.bus.dispatch event) w).2.rockets) :
    HandledSeen event r.view w (Processor.told event.eventId told) w' := by
  rw [played] at plain rockets
  cases plain
  exact ⟨rfl, appears_of_saved live new rockets⟩

variable {rocketType mission : String} {launchSpeed : Int64}

theorem launchAnswered_of_dispatched {told : Except BusFault Unit} (bus : p.bus = .full guard)
    (launched : event.kind = .launched rocketType launchSpeed mission)
    (plain : (play (p.bus.dispatch event) w).1 = .returned told)
    (rockets : w'.rockets = (play (p.bus.dispatch event) w).2.rockets) :
    LaunchAnswered event rocketType launchSpeed mission w (Processor.told event.eventId told)
      w' := by
  constructor
  · intro untimed
    refine refusedUnseen_of_dispatch ?_ plain rockets
    rw [bus]
    exact play_dispatch_untimed launched untimed w
  · intro time timed unaccepted
    cases valid : (launchOrder event rocketType launchSpeed mission time).validate with
    | ok r =>
        exact absurd (LaunchOrder.acceptable_of_validate valid) unaccepted
    | error violation =>
        refine ⟨violation, LaunchOrder.breaks_of_validate valid, ?_⟩
        refine refusedUnseen_of_dispatch ?_ plain rockets
        rw [bus]
        exact play_dispatch_launch launched timed (play_launch_of_rejected valid w)
  · intro time timed accepted recorded
    rcases LaunchOrder.validate_of_acceptable accepted with ⟨r, valid⟩
    have text : r.id.text = event.rocketId := LaunchOrder.text_validate valid
    have known : w.rockets.isKnown r.id = true := by
      rw [Fleet.isKnown_eq_isSome, text]
      exact recorded
    refine refusedUnseen_of_dispatch ?_ plain rockets
    rw [bus, ← text]
    exact play_dispatch_launch launched timed (play_launch_of_known valid known)
  · intro time timed accepted new
    rcases LaunchOrder.validate_of_acceptable accepted with ⟨r, valid⟩
    have text : r.id.text = event.rocketId := LaunchOrder.text_validate valid
    rw [← text] at new
    have unknown : w.rockets.isKnown r.id = false := by
      rw [Fleet.isKnown_eq_isSome, new, Option.isSome_none]
    rw [← LaunchOrder.view_validate valid]
    refine handledSeen_of_dispatch (LaunchOrder.isDeleted_validate valid) new ?_ plain rockets
    rw [bus]
    exact play_dispatch_launch launched timed (play_launch_of_unknown valid unknown)

/--
Whatever was delivered before, the delivery of a launch that is not claimed either tells of success,
and the rocket is shown as it was sent, or tells of its reason to refuse, and nothing that is shown
changes.
-/
theorem launched_as_sent_or_not_at_all {arrivals : List Arrival}
    {start : World Leases ClaimRecords Fleet} {body : Bytes} (bus : p.bus = .full guard)
    (unlocked : start.locks = {})
    (lastingBefore : ∀ arrival ∈ arrivals, p.mutex.Lasting arrival.time)
    (lasting : p.mutex.Lasting now) (passes : p.retention.Passes now)
    (resolved : RocketEvent.ofBody body = .ok event)
    (launched : event.kind = .launched rocketType launchSpeed mission)
    (unclaimed : (afterAll p arrivals start).claims.isLive event.eventId now = false) :
    ∃ result w', arrive p ⟨body, now⟩ (afterAll p arrivals start) = (.returned result, w') ∧
      LaunchAnswered event rocketType launchSpeed mission (afterAll p arrivals start) result
        w' := by
  have idle := locks_afterAll bus lastingBefore unlocked
  generalize afterAll p arrivals start = w at idle unclaimed ⊢
  have lastingNow : p.mutex.Lasting (Arrival.mk body now).time := lasting
  rcases arrive_completed bus lastingNow resolved idle with ⟨result, w', played, completed, _⟩
  rcases Completed.dispatched_of_unclaimed (w := { w with clock := .standing now }) passes
    unclaimed completed with ⟨told, plain, rfl, rockets⟩
  -- the dispatch does not look at the clock
  have about := EventBus.about_dispatch_full guard event
  rw [← bus] at about
  rcases about.play_congr_rockets (v := { w with clock := .standing now }) (w := w) rfl with
    ⟨outcome, left⟩
  exact ⟨_, w', played, launchAnswered_of_dispatched bus launched (outcome.symm.trans plain)
    (rockets.trans left)⟩

theorem other_launch_shown_once :
    (∃ w', arrive retaining ⟨otherLaunchBody, ⟨9, 0⟩⟩
        (afterAll retaining [⟨accelerationBody, ⟨0, 0⟩⟩] resting) =
          (.returned (.ok otherLaunch.eventId), w') ∧
        Appears (launchOrder otherLaunch "Falcon-9" 500 "ARTEMIS" ⟨1643827145, 0⟩).view
          (afterAll retaining [⟨accelerationBody, ⟨0, 0⟩⟩] resting) w') ∧
      ∃ w', arrive retaining ⟨otherLaunchBody, ⟨99, 0⟩⟩
          (afterAll retaining [⟨otherLaunchBody, ⟨9, 0⟩⟩] resting) =
            (.returned (.error (.notDispatched otherLaunch.eventId
              (.handlerFailed "RocketLaunched" (.alreadyKnown otherLaunch.rocketId)))), w') ∧
        ShowsAlike w' (afterAll retaining [⟨otherLaunchBody, ⟨9, 0⟩⟩] resting) := by
  have lasting (time : Instant) (among : time ∈ [⟨0, 0⟩, ⟨9, 0⟩, ⟨99, 0⟩]) :
      retaining.mutex.Lasting time := by
    have tellable : ∀ time ∈ [(⟨0, 0⟩ : Instant), ⟨9, 0⟩, ⟨99, 0⟩],
        (time.after? retaining.mutex.expiry).isSome = true := by
      decide +kernel
    exact ⟨by decide, by decide, tellable time among⟩
  have passes (time : Instant) (among : time ∈ [⟨9, 0⟩, ⟨99, 0⟩]) :
      retaining.retention.Passes time := by
    have tellable : ∀ time ∈ [(⟨9, 0⟩ : Instant), ⟨99, 0⟩],
        (time.after? retaining.retention).isSome = true := by
      decide +kernel
    exact ⟨by decide, by decide, tellable time among⟩
  have valid : (launchOrder otherLaunch "Falcon-9" 500 "ARTEMIS"
      ⟨1643827145, 0⟩).validate.toOption.isSome = true := by
    decide +kernel
  rcases Option.isSome_iff_exists.mp valid with ⟨r, validated⟩
  have accepted := LaunchOrder.acceptable_of_validate (eq_ok_of_toOption_eq_some validated)
  constructor
  · have before : ∀ arrival ∈ [(⟨accelerationBody, ⟨0, 0⟩⟩ : Arrival)],
        retaining.mutex.Lasting arrival.time := by
      intro arrival mem
      rw [List.mem_singleton.mp mem]
      exact lasting ⟨0, 0⟩ (by decide)
    have unclaimed : (afterAll retaining [⟨accelerationBody, ⟨0, 0⟩⟩] resting).claims.isLive
        otherLaunch.eventId ⟨9, 0⟩ = false := by
      rw [afterAll, afterAll, arrive_of_ok ofBody_accelerationBody]
      decide +kernel
    have new : (afterAll retaining [⟨accelerationBody, ⟨0, 0⟩⟩] resting).rockets.recordAt
        otherLaunch.rocketId = none := by
      rw [afterAll, afterAll, arrive_of_ok ofBody_accelerationBody]
      decide +kernel
    rcases launched_as_sent_or_not_at_all rfl rfl before (lasting ⟨9, 0⟩ (by decide))
      (passes ⟨9, 0⟩ (by decide)) ofBody_otherLaunchBody rfl unclaimed with
      ⟨result, w', played, answered⟩
    rcases answered.fresh _ rfl accepted new with ⟨rfl, appears⟩
    exact ⟨w', played, appears⟩
  · have before : ∀ arrival ∈ [(⟨otherLaunchBody, ⟨9, 0⟩⟩ : Arrival)],
        retaining.mutex.Lasting arrival.time := by
      intro arrival mem
      rw [List.mem_singleton.mp mem]
      exact lasting ⟨9, 0⟩ (by decide)
    have unclaimed : (afterAll retaining [⟨otherLaunchBody, ⟨9, 0⟩⟩] resting).claims.isLive
        otherLaunch.eventId ⟨99, 0⟩ = false := by
      rw [afterAll, afterAll, arrive_of_ok ofBody_otherLaunchBody]
      decide +kernel
    have recorded : ((afterAll retaining [⟨otherLaunchBody, ⟨9, 0⟩⟩] resting).rockets.recordAt
        otherLaunch.rocketId).isSome = true := by
      rw [afterAll, afterAll, arrive_of_ok ofBody_otherLaunchBody]
      decide +kernel
    rcases launched_as_sent_or_not_at_all rfl rfl before (lasting ⟨99, 0⟩ (by decide))
      (passes ⟨99, 0⟩ (by decide)) ofBody_otherLaunchBody rfl unclaimed with
      ⟨result, w', played, answered⟩
    rcases answered.known _ rfl accepted recorded with ⟨rfl, unseen⟩
    exact ⟨w', played, unseen⟩

end World
end MissionControl
