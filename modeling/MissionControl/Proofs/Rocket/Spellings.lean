import MissionControl.Proofs.Delivery.Launches
import MissionControl.Proofs.Rocket.History
import MissionControl.Proofs.Uuid.Spellings

/-!
# Spellings of one UUID

A rocket is kept under the text that it was launched under.  Another spelling of the same UUID is
the identifier of another rocket: it can be launched as well, and the two share nothing.  So there
is one rocket for each text, and one for each UUID among the texts of one form in lower case.
-/

namespace MissionControl

/-! ## Identifiers -/

namespace RocketId

/-- Two identifiers are written in one form, and without capitals. -/
structure WrittenAlike (id other : RocketId) : Prop where
  length : id.text.length = other.text.length
  lower : id.text.toList.map Char.toLower = id.text.toList
  lowerOther : other.text.toList.map Char.toLower = other.text.toList

theorem WrittenAlike.eq {id other : RocketId} (h : id.WrittenAlike other)
    (same : Uuid.parse id.text = Uuid.parse other.text) : id = other := by
  rcases id.isUuid with ⟨uuid, read⟩
  have long : id.text.toList.length = other.text.toList.length := by
    rw [String.length_toList, String.length_toList, h.length]
  have lowered := Uuid.lowered_of_read? (Uuid.read?_of_parse read)
    (Uuid.read?_of_parse (same.symm.trans read)) long
  rw [h.lower, h.lowerOther] at lowered
  exact ext_iff.mpr (String.toList_inj.mp lowered)

end RocketId

theorem Fleet.eq_of_mem_records {fleet : Fleet} {r s : Rocket} (mem : r ∈ fleet.records)
    (memOther : s ∈ fleet.records) (same : r.id.text = s.id.text) : r = s := by
  rw [mem_records_iff] at mem memOther
  rw [same, memOther] at mem
  exact (Option.some.inj mem).symm

/-! ## Requests for a launch -/

def RocketEvent.launchOrder? (event : RocketEvent) : Option LaunchOrder :=
  match event.kind, event.time with
  | .launched rocketType launchSpeed mission, some time =>
      some (World.launchOrder event rocketType launchSpeed mission time)
  | _, _ => none

theorem RocketEvent.exists_of_launchOrder? {event : RocketEvent} {order : LaunchOrder}
    (asked : event.launchOrder? = some order) :
    ∃ rocketType launchSpeed mission time,
      event.kind = .launched rocketType launchSpeed mission ∧ event.time = some time ∧
        order = World.launchOrder event rocketType launchSpeed mission time := by
  unfold launchOrder? at asked
  split at asked
  · rename_i launched timed
    cases asked
    exact ⟨_, _, _, _, launched, timed, rfl⟩
  · cases asked

namespace RocketRequest

def channel : RocketRequest → String
  | launch order => order.id
  | revise order => order.id
  | dispatch event => event.rocketId
  | dispatchExclusively _ event => event.rocketId

def Unlocked : RocketRequest → Prop
  | dispatchExclusively _ _ => False
  | _ => True

def launchOrder? : RocketRequest → Option LaunchOrder
  | launch order => some order
  | revise _ => none
  | dispatch event => event.launchOrder?
  | dispatchExclusively _ event => event.launchOrder?

/-- Whether a request is for a launch under a text, with values that are accepted. -/
def Launches (request : RocketRequest) (text : String) : Prop :=
  ∃ order, request.launchOrder? = some order ∧ order.Acceptable ∧ order.id = text

/-- The requests that are about a text. -/
def about (text : String) (requests : List RocketRequest) : List RocketRequest :=
  requests.filter fun request => request.channel = text

end RocketRequest

namespace EventHandler

theorem launchOrder?_of_demand {handler : EventHandler} {event : RocketEvent}
    {order : LaunchOrder} (h : handler.demand event = .ok (.launch order)) :
    event.launchOrder? = some order := by
  unfold demand at h
  split at h
  · rename_i launched
    split at h
    · cases h
    · rename_i timed
      cases h
      simp only [RocketEvent.launchOrder?, launched, timed]
      rfl
  · cases h
  · cases h
  · rcases exists_of_map_eq_ok h with ⟨amount, _, same⟩
    cases same
  · rcases exists_of_map_eq_ok h with ⟨amount, _, same⟩
    cases same
  · cases h

end EventHandler

namespace World

variable {L C : Type} [LockStore L] [ClaimStore C] {guard : Guard} {w : World L C Fleet}
  {text : String}

/-! ## New records -/

theorem launched_of_new_launch {order : LaunchOrder} (new : w.rockets.recordAt text = none)
    (recorded : ((play order.carryOut w).2.rockets.recordAt text).isSome) :
    order.Acceptable ∧ order.id = text := by
  rcases play_launch order w with ⟨cause, played⟩ | ⟨r, valid, _, played⟩
  · rw [played, new] at recorded
    cases recorded
  · rw [played, Fleet.recordAt_save] at recorded
    split at recorded
    · rename_i here
      exact ⟨LaunchOrder.acceptable_of_validate valid,
        (LaunchOrder.text_validate valid).symm.trans here.symm⟩
    · rw [new] at recorded
      cases recorded

theorem recorded_of_revision {order : RevisionOrder}
    (recorded : ((play (order.carryOut guard) w).2.rockets.recordAt text).isSome) :
    (w.rockets.recordAt text).isSome := by
  rcases play_revision guard order w with ⟨cause, played⟩ | ⟨id, changes, r, _, found, played⟩
  · rwa [played] at recorded
  · rw [played, Fleet.recordAt_save, Rocket.id_reviseAll] at recorded
    split at recorded
    · rename_i here
      rw [here, Fleet.text_of_find found, (Fleet.find_eq_ok_iff.mp found).1]
      rfl
    · exact recorded

theorem launched_of_new_handle {type : EventType} {event : RocketEvent}
    (new : w.rockets.recordAt text = none)
    (recorded : ((play ((EventHandler.ofType guard type).handle event) w).2.rockets.recordAt
      text).isSome) :
    ∃ order, event.launchOrder? = some order ∧ order.Acceptable ∧ order.id = text := by
  unfold EventHandler.handle at recorded
  cases asked : (EventHandler.ofType guard type).demand event with
  | error failure =>
      rw [asked] at recorded
      have unchanged : (w.rockets.recordAt text).isSome := recorded
      rw [new] at unchanged
      cases unchanged
  | ok demand =>
      rw [asked] at recorded
      dsimp only at recorded
      rw [Script.bind_eq, play_bind_done fun result => by cases result <;> exact ⟨_, rfl⟩]
        at recorded
      cases demand with
      | launch order =>
          exact ⟨order, EventHandler.launchOrder?_of_demand asked,
            launched_of_new_launch new recorded⟩
      | revision own order =>
          have before := recorded_of_revision recorded
          rw [new] at before
          cases before

/-! ## One request -/

theorem world_dispatch (guard : Guard) (event : RocketEvent) (w : World L C Fleet) :
    (play ((EventBus.full guard).dispatch event) w).2 =
      (play ((EventHandler.ofType guard event.kind.type).handle event) w).2 := by
  rw [dispatch_of_some (EventBus.handler?_full guard event.kind.type)]
  exact play_bind_done (fun _ => ⟨_, rfl⟩) w

theorem rockets_dispatchExclusively (guard : Guard) (m : Mutex) (event : RocketEvent)
    (w : World L C Fleet) :
    (play ((EventBus.full guard).dispatchExclusively m event) w).2.rockets = w.rockets ∨
      ∃ held : World L C Fleet, held.rockets = w.rockets ∧
        (play ((EventBus.full guard).dispatchExclusively m event) w).2.rockets =
          (play ((EventHandler.ofType guard event.kind.type).handle event) held).2.rockets := by
  rw [world_dispatchExclusively]
  rcases notBegun_or_begun m event.lockKey
      ((EventHandler.ofType guard event.kind.type).handle event) w with
    unbegun | ⟨before, after, held, begun⟩
  · exact .inl unbegun.rockets
  · exact .inr ⟨held, begun.heldRockets, begun.rockets⟩

theorem launches_of_new {request : RocketRequest} (new : w.rockets.recordAt text = none)
    (recorded : ((w.served guard request).rockets.recordAt text).isSome) :
    request.Launches text := by
  cases request with
  | launch order =>
      exact ⟨order, rfl, launched_of_new_launch new recorded⟩
  | revise order =>
      have before := recorded_of_revision recorded
      rw [new] at before
      cases before
  | dispatch event =>
      rw [served, world_dispatch] at recorded
      exact launched_of_new_handle new recorded
  | dispatchExclusively m event =>
      rw [served] at recorded
      rcases rockets_dispatchExclusively guard m event w with unbegun | ⟨held, same, begun⟩
      · rw [unbegun, new] at recorded
        cases recorded
      · rw [begun] at recorded
        rw [← same] at new
        exact launched_of_new_handle new recorded

theorem recordAt_served_of_ne (request : RocketRequest) (apart : text ≠ request.channel) :
    (w.served guard request).rockets.recordAt text = w.rockets.recordAt text := by
  cases request with
  | launch order =>
      exact order.about_carryOut.play_elsewhere w apart
  | revise order =>
      exact (order.about_carryOut guard).play_elsewhere w apart
  | dispatch event =>
      exact (EventBus.about_dispatch_full guard event).play_elsewhere w apart
  | dispatchExclusively m event =>
      rw [served]
      rcases rockets_dispatchExclusively guard m event w with unbegun | ⟨held, same, begun⟩
      · rw [unbegun]
      · rw [begun, ← same]
        exact (EventHandler.about_handle _ event).play_elsewhere held apart

theorem recordAt_served_congr {request : RocketRequest} (unlocked : request.Unlocked)
    {v : World L C Fleet}
    (same : v.rockets.recordAt request.channel = w.rockets.recordAt request.channel) :
    (v.served guard request).rockets.recordAt request.channel =
      (w.served guard request).rockets.recordAt request.channel := by
  cases request with
  | launch order =>
      exact (order.about_carryOut.play_congr same).2
  | revise order =>
      exact ((order.about_carryOut guard).play_congr same).2
  | dispatch event =>
      exact ((EventBus.about_dispatch_full guard event).play_congr same).2
  | dispatchExclusively m event =>
      cases unlocked

/-! ## Launches -/

/--
How a launch under a text is taken: it is refused if there is a rocket under this very text, and
makes one if there is none.
-/
structure Takes {ε α : Type} (w : World L C Fleet) (text : String) (launch : Script (Except ε α))
    (refusal : ε) : Prop where
  known : (w.rockets.recordAt text).isSome →
    play launch w = (.returned (.error refusal), w)
  new : w.rockets.recordAt text = none → ∃ r value, r.id.text = text ∧
    play launch w = (.returned (.ok value), { w with rockets := w.rockets.save r })

theorem Takes.recorded {ε α : Type} {launch : Script (Except ε α)} {refusal : ε}
    (h : w.Takes text launch refusal) : ((play launch w).2.rockets.recordAt text).isSome := by
  cases found : w.rockets.recordAt text with
  | some r =>
      rw [h.known (by rw [found]; rfl), found]
      rfl
  | none =>
      rcases h.new found with ⟨r, value, here, played⟩
      rw [played, Fleet.recordAt_save, if_pos here.symm]
      rfl

theorem takes_launch {order : LaunchOrder} (accepted : order.Acceptable) (w : World L C Fleet) :
    w.Takes order.id order.carryOut (.alreadyKnown order.id) := by
  rcases LaunchOrder.validate_of_acceptable accepted with ⟨r, valid⟩
  have here : r.id.text = order.id := LaunchOrder.text_validate valid
  constructor
  · intro known
    rw [← here] at known ⊢
    exact play_launch_of_known valid ((Fleet.isKnown_eq_isSome _ _).trans known)
  · intro new
    refine ⟨r, r, here, play_launch_of_unknown valid ?_⟩
    rw [Fleet.isKnown_eq_isSome, here, new]
    rfl

theorem takes_dispatch {event : RocketEvent} {order : LaunchOrder}
    (asked : event.launchOrder? = some order) (accepted : order.Acceptable)
    (w : World L C Fleet) :
    w.Takes event.rocketId ((EventBus.full guard).dispatch event)
      (.handlerFailed "RocketLaunched" (.alreadyKnown event.rocketId)) := by
  rcases RocketEvent.exists_of_launchOrder? asked with
    ⟨rocketType, launchSpeed, mission, time, launched, timed, rfl⟩
  have type : event.kind.type.name = "RocketLaunched" := by
    rw [launched]
    rfl
  have taken := takes_launch accepted w
  constructor
  · intro known
    rw [play_dispatch_launch launched timed (taken.known known), type]
    rfl
  · intro new
    rcases taken.new new with ⟨r, value, here, played⟩
    exact ⟨r, (), here, play_dispatch_launch launched timed played⟩

theorem recorded_of_launches {request : RocketRequest} (unlocked : request.Unlocked)
    (launches : request.Launches text) :
    ((w.served guard request).rockets.recordAt text).isSome := by
  rcases launches with ⟨order, asked, accepted, rfl⟩
  cases request with
  | launch order =>
      cases asked
      exact (takes_launch accepted w).recorded
  | revise order =>
      cases asked
  | dispatch event =>
      have taken : w.Takes event.rocketId ((EventBus.full guard).dispatch event) _ :=
        takes_dispatch asked accepted w
      rcases RocketEvent.exists_of_launchOrder? asked with ⟨_, _, _, _, _, _, rfl⟩
      exact taken.recorded
  | dispatchExclusively m event =>
      cases unlocked

/-! ## Runs -/

theorem launches_of_recorded {requests : List RocketRequest} (new : w.rockets.recordAt text = none)
    (recorded : ((w.servedAll guard requests).rockets.recordAt text).isSome) :
    ∃ request ∈ requests, request.Launches text := by
  unfold servedAll at recorded
  induction requests generalizing w with
  | nil =>
      rw [List.foldl_nil, new] at recorded
      cases recorded
  | cons request rest ih =>
      cases found : (w.served guard request).rockets.recordAt text with
      | none =>
          rcases ih found recorded with ⟨later, mem, launches⟩
          exact ⟨later, List.mem_cons_of_mem _ mem, launches⟩
      | some r =>
          exact ⟨request, List.mem_cons_self, launches_of_new new (Option.isSome_of_eq_some found)⟩

theorem recorded_of_mem_launches {requests : List RocketRequest} {request : RocketRequest}
    (mem : request ∈ requests) (unlocked : request.Unlocked) (launches : request.Launches text) :
    ((w.servedAll guard requests).rockets.recordAt text).isSome := by
  rcases List.append_of_mem mem with ⟨before, after, rfl⟩
  have recorded : (((w.servedAll guard before).served guard request).rockets.recordAt
      text).isSome := recorded_of_launches unlocked launches
  rcases Option.isSome_iff_exists.mp recorded with ⟨r, found⟩
  have precedes := precedes_servedAll guard after ((w.servedAll guard before).served guard request)
  rcases precedes text r found with ⟨follower, kept, _⟩
  rw [servedAll, List.foldl_append]
  exact Option.isSome_of_eq_some kept

/-- Requests about other texts might as well not have been made. -/
theorem recordAt_servedAll_about {requests : List RocketRequest}
    (unlocked : ∀ request ∈ requests, request.Unlocked) {v : World L C Fleet}
    (same : v.rockets.recordAt text = w.rockets.recordAt text) :
    (v.servedAll guard requests).rockets.recordAt text =
      (w.servedAll guard (RocketRequest.about text requests)).rockets.recordAt text := by
  unfold servedAll RocketRequest.about
  induction requests generalizing v w with
  | nil =>
      exact same
  | cons request rest ih =>
      have unlockedRest : ∀ later ∈ rest, later.Unlocked := fun later mem =>
        unlocked later (List.mem_cons_of_mem _ mem)
      by_cases here : request.channel = text
      · rw [List.filter_cons_of_pos (by simpa using here)]
        apply ih unlockedRest
        subst here
        exact recordAt_served_congr (unlocked request List.mem_cons_self) same
      · rw [List.filter_cons_of_neg (by simpa using here)]
        apply ih unlockedRest
        rw [recordAt_served_of_ne request (Ne.symm here), same]

/--
From an empty fleet, whatever is asked for: there is one rocket for each text that was launched, and
one for each UUID among the texts that are written alike.  A launch is refused if there is a rocket
under its very text and makes one otherwise, and a request is about the rocket of its own text: the
others stay as they are, and without locks it is served as if they had never been asked about.
-/
theorem one_rocket_per_spelling (guard : Guard) (start : World L C Fleet)
    (empty : start.rockets = .empty) (requests : List RocketRequest) :
    (∀ r ∈ (start.servedAll guard requests).rockets.records,
      (∃ request ∈ requests, request.Launches r.id.text) ∧
        ∀ s ∈ (start.servedAll guard requests).rockets.records,
          (r.id.text = s.id.text → r = s) ∧
            (r.id.WrittenAlike s.id → Uuid.parse r.id.text = Uuid.parse s.id.text → r = s)) ∧
      (∀ request ∈ requests, request.Unlocked → ∀ text, request.Launches text →
        ∃ r ∈ (start.servedAll guard requests).rockets.records, r.id.text = text) ∧
      (∀ order : LaunchOrder, order.Acceptable →
        (start.servedAll guard requests).Takes order.id order.carryOut
          (.alreadyKnown order.id)) ∧
      (∀ (event : RocketEvent) (order : LaunchOrder), event.launchOrder? = some order →
        order.Acceptable →
          (start.servedAll guard requests).Takes event.rocketId
            ((EventBus.full guard).dispatch event)
            (.handlerFailed "RocketLaunched" (.alreadyKnown event.rocketId))) ∧
      (∀ (request : RocketRequest) (text : String), text ≠ request.channel →
        (start.servedAll guard (requests ++ [request])).rockets.recordAt text =
          (start.servedAll guard requests).rockets.recordAt text) ∧
      ((∀ request ∈ requests, request.Unlocked) → ∀ event : RocketEvent,
        (play ((EventBus.full guard).dispatch event) (start.servedAll guard requests)).1 =
            (play ((EventBus.full guard).dispatch event)
              (start.servedAll guard (RocketRequest.about event.rocketId requests))).1 ∧
          (start.servedAll guard requests).rockets.recordAt event.rocketId =
            (start.servedAll guard
              (RocketRequest.about event.rocketId requests)).rockets.recordAt event.rocketId) := by
  refine ⟨fun r mem => ⟨?_, fun s memOther => ⟨Fleet.eq_of_mem_records mem memOther, ?_⟩⟩,
    fun request mem unlocked text launches => ?_, fun order accepted => takes_launch accepted _,
    fun event order asked accepted => takes_dispatch asked accepted _,
    fun request text apart => ?_, fun unlocked event => ?_⟩
  · have new : start.rockets.recordAt r.id.text = none := by
      rw [empty]
      rfl
    exact launches_of_recorded new (Option.isSome_of_eq_some (Fleet.mem_records_iff.mp mem))
  · intro alike same
    exact Fleet.eq_of_mem_records mem memOther (congrArg RocketId.text (alike.eq same))
  · have recorded : ((start.servedAll guard requests).rockets.recordAt text).isSome :=
      recorded_of_mem_launches mem unlocked launches
    rcases Option.isSome_iff_exists.mp recorded with ⟨r, found⟩
    have here := Fleet.text_of_recordAt found
    refine ⟨r, Fleet.mem_records_iff.mpr ?_, here⟩
    rw [here, found]
  · rw [servedAll, List.foldl_append]
    exact recordAt_served_of_ne request apart
  · have alone : (start.servedAll guard requests).rockets.recordAt event.rocketId =
        (start.servedAll guard
          (RocketRequest.about event.rocketId requests)).rockets.recordAt event.rocketId :=
      recordAt_servedAll_about unlocked rfl
    exact ⟨((EventBus.about_dispatch_full guard event).play_congr alone).1, alone⟩

def launchInLowerCase : LaunchOrder :=
  { id := acceleration.rocketId, rocketType := "Falcon-9", speed := 500, mission := "ARTEMIS"
    time := .epoch }

def launchInCapitals : LaunchOrder :=
  { launchInLowerCase with id := "193270A9-C9CF-404A-8F83-838E71D9AE67" }

def bothSpellings : List RocketRequest := [.launch launchInLowerCase, .launch launchInCapitals]

theorem isSome_recordAt_bothSpellings : ∀ order ∈ [launchInLowerCase, launchInCapitals],
    ((unlaunched.servedAll .notAfter bothSpellings).rockets.recordAt order.id).isSome := by
  decide +kernel

theorem relaunch_refused : unlaunched.rockets = .empty ∧ launchInLowerCase.Acceptable ∧
    play launchInLowerCase.carryOut (unlaunched.servedAll .notAfter bothSpellings) =
      (.returned (.error (.alreadyKnown launchInLowerCase.id)),
        unlaunched.servedAll .notAfter bothSpellings) := by
  have valid : launchInLowerCase.validate.toOption.isSome := by decide +kernel
  rcases Option.isSome_iff_exists.mp valid with ⟨r, validated⟩
  have accepted := LaunchOrder.acceptable_of_validate (eq_ok_of_toOption_eq_some validated)
  have taken := (one_rocket_per_spelling .notAfter unlaunched rfl bothSpellings).2.2.1
    launchInLowerCase accepted
  exact ⟨rfl, accepted,
    taken.known (isSome_recordAt_bothSpellings launchInLowerCase List.mem_cons_self)⟩

/-- Two launches under one UUID, in lower case and in capitals, make two rockets. -/
theorem two_rockets_of_one_uuid : unlaunched.rockets = .empty ∧
    ∃ r ∈ (unlaunched.servedAll .notAfter bothSpellings).rockets.records,
      ∃ s ∈ (unlaunched.servedAll .notAfter bothSpellings).rockets.records,
        r ≠ s ∧ Uuid.parse r.id.text = Uuid.parse s.id.text := by
  have recorded := isSome_recordAt_bothSpellings
  rcases Option.isSome_iff_exists.mp (recorded launchInLowerCase List.mem_cons_self) with
    ⟨r, found⟩
  rcases Option.isSome_iff_exists.mp
    (recorded launchInCapitals (List.mem_cons_of_mem _ List.mem_cons_self)) with ⟨s, foundOther⟩
  have text := Fleet.text_of_recordAt found
  have textOther := Fleet.text_of_recordAt foundOther
  have read : Uuid.parse launchInLowerCase.id = .ok ⟨0x193270a9c9cf404a8f83838e71d9ae67⟩ := by
    apply eq_ok_of_toOption_eq_some
    decide +kernel
  have readOther : Uuid.parse launchInCapitals.id = .ok ⟨0x193270a9c9cf404a8f83838e71d9ae67⟩ := by
    apply eq_ok_of_toOption_eq_some
    decide +kernel
  refine ⟨rfl, r, Fleet.mem_records_iff.mpr (text ▸ found), s,
    Fleet.mem_records_iff.mpr (textOther ▸ foundOther), fun same => ?_, ?_⟩
  · have texts : launchInLowerCase.id = launchInCapitals.id := by
      rw [← text, ← textOther, same]
    revert texts
    decide
  · rw [text, textOther, read, readOther]

end World
end MissionControl
