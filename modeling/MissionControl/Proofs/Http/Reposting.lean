import MissionControl.Http.Service
import MissionControl.Proofs.Delivery.Answers
import MissionControl.Proofs.Delivery.Channels
import MissionControl.Proofs.Pool.Debts

/-!
# Posting a message twice

Requests to the service leave no live lease behind, however they are mixed.  In every state that
they lead to, a message that is posted is handled or its sender is at fault.  Posted again at once,
a message that was handled is a duplicate, and any other is answered as before and has changed
nothing.  Getting something never changes anything.
-/

namespace MissionControl

/-! ## Looking up -/

def Call.isLookup : Call → Bool
  | findRocket _ => true
  | isKnown _ => true
  | listRockets _ => true
  | _ => false

theorem Call.isPlain_of_isLookup {c : Call} (h : c.isLookup = true) : c.isPlain = true := by
  cases c <;> first | rfl | cases h

theorem World.play_of_isLookup {L C R α : Type} [LockStore L] [ClaimStore C] [RocketStore R]
    {s : Script α} (only : s.Only fun c => c.isLookup = true) (w : World L C R) :
    (play s w).2 = w := by
  refine play_keeps (fun v => v = w) (fun c v lookup same => ?_) only rfl
  rw [← same]
  cases c with
  | findRocket id =>
      rfl
  | isKnown id =>
      rfl
  | listRockets key =>
      rfl
  | _ =>
      cases lookup

theorem Bus.only_dispatchExpecting {ι ο τ : Type} [Input ι] {allowed : Call → Prop}
    {bus : Bus ι ο} {input : ι} (handler : Handler ι ο)
    (registered : bus.handler? (Input.type input) = some handler)
    (only : (handler input).Only allowed) (expected : String) (shape : ο → Option τ) :
    (bus.dispatchExpecting expected shape input).Only allowed := by
  have dispatched : (bus.dispatch input).Only allowed := by
    unfold dispatch
    simp only [registered]
    exact only.bind fun _ => trivial
  refine dispatched.bind fun result => ?_
  cases result with
  | error failure =>
      trivial
  | ok output =>
      dsimp only
      split <;> trivial

namespace QueryBus

theorem only_handle (handler : QueryHandler) (query : RocketQuery) :
    (handler.handle query).Only fun c => c.isLookup = true := by
  unfold QueryHandler.handle
  split
  · split
    · trivial
    · refine Script.Only.bind (Script.Only.perform rfl) fun found => ?_
      cases found <;> trivial
  · refine Script.Only.bind (Script.Only.perform rfl) fun listed => ?_
    cases listed <;> trivial
  · trivial

theorem only_one (id : String) :
    (QueryBus.full.one (.byId id)).Only fun c => c.isLookup = true :=
  Bus.only_dispatchExpecting QueryHandler.finding.handle rfl (only_handle _ _) _ _

theorem only_many (key : SortKey) :
    (QueryBus.full.many (.search key)).Only fun c => c.isLookup = true :=
  Bus.only_dispatchExpecting QueryHandler.searching.handle rfl (only_handle _ _) _ _

end QueryBus

namespace Http

variable {settings : Settings} {request : Request}

/-! ## Responses -/

theorem only_answer {route : Route} (elsewhere : route ≠ .messages) (settings : Settings)
    (request : Request) :
    (answer (.ofSettings settings) request route).Only fun c => c.isLookup = true := by
  cases route with
  | health =>
      trivial
  | messages =>
      exact absurd rfl elsewhere
  | rockets =>
      simp only [answer]
      split
      · trivial
      · exact (QueryBus.only_many _).bind fun _ => trivial
  | rocket name =>
      simp only [answer]
      split
      · trivial
      · exact (QueryBus.only_one _).bind fun _ => trivial

theorem play_respond_of_get (settings : Settings) (get : request.method = "GET")
    (w : World Leases ClaimRecords Fleet) :
    (World.play (respond (.ofSettings settings) request) w).2 = w := by
  apply World.play_of_isLookup
  unfold respond
  split
  · trivial
  · rename_i route _
    split
    · rename_i allowed
      refine Script.Only.bind ?_ fun _ => trivial
      apply only_answer
      rintro rfl
      rw [get] at allowed
      exact absurd allowed (by decide)
    · trivial

def posted : Except DeliveryFault String → Response
  | .ok _ => { status := 204 }
  | .error cause => Failure.response (.processing cause)

theorem answer_messages (service : Service) (request : Request) :
    answer service request .messages =
      if bodyLimit < request.body.length then .done { status := 413 }
      else (service.processor.process request.body).bind fun result => .done (posted result) := by
  simp only [answer]
  split
  · rfl
  · show Script.bind (Script.bind _ _) _ = _
    rw [Script.bind_assoc]
    apply congrArg
    funext result
    cases result <;> rfl

theorem respond_of_post (service : Service) (post : request.method = "POST")
    (path : Route.ofPath? request.target.path = some .messages) :
    respond service request =
      if bodyLimit < request.body.length then .done { status := 413 }
      else (service.processor.process request.body).bind fun result => .done (posted result) := by
  have allowed : Route.messages.allows request.method = true := by
    rw [post]
    rfl
  have withBody : request.method ≠ "HEAD" := by
    rw [post]
    decide
  unfold respond
  simp only [path, allowed, if_true, withBody, if_false]
  rw [answer_messages]
  exact Script.bind_pure _

theorem play_respond_of_post {service : Service} (post : request.method = "POST")
    (path : Route.ofPath? request.target.path = some .messages)
    (short : ¬bodyLimit < request.body.length) {w w' : World Leases ClaimRecords Fleet}
    {result : Except DeliveryFault String}
    (played : World.play (service.processor.process request.body) w = (.returned result, w')) :
    World.play (respond service request) w = (.returned (posted result), w') := by
  rw [respond_of_post service post path, if_neg short, World.play_bind_of_returned played]
  rfl

theorem honest_respond (settings : Settings) (request : Request) :
    (respond (.ofSettings settings) request).Honest settings.mutex.expiry
      settings.retention := by
  unfold respond
  split
  · exact .done _
  · rename_i route _
    split
    · refine Script.Honest.bind ?_ fun _ => .done _
      by_cases here : route = .messages
      · rw [here, answer_messages]
        split
        · exact .done _
        · have honest := Processor.honest_process
            (p := (Service.ofSettings settings).processor) rfl request.body
          exact honest.bind fun _ => .done _
      · apply Script.Honest.of_only
        exact (only_answer here settings request).mono fun _ => Call.isPlain_of_isLookup
    · exact .done _

theorem honest_of_mem (requests : List Request) :
    ∀ s ∈ requests.map (respond (.ofSettings settings)),
      s.Honest settings.mutex.expiry settings.retention := by
  intro s mem
  rcases List.mem_map.mp mem with ⟨request, _, rfl⟩
  exact honest_respond settings request

/-! ## Reachable states -/

/--
The states that requests lead to: the stores are empty at first; some requests are answered, in any
order of their calls, until all are; and in between the clock may be moved, unless that would make
a lease live again.
-/
inductive Reachable (settings : Settings) : World Leases ClaimRecords Fleet → Prop where
  | fresh {w : World Leases ClaimRecords Fleet} {opened : Instant} {readings : Supply Instant} :
      w.locks = {} → w.claims = .start opened → w.rockets = .empty → w.clock = .going readings →
      readings.Regular settings.mutex.expiry settings.retention → Reachable settings w
  | served {w : World Leases ClaimRecords Fleet} {pool : Pool Leases ClaimRecords Fleet Response}
      (requests : List Request) (schedule : List Nat) : Reachable settings w →
      pool = (Pool.start w (requests.map (respond (.ofSettings settings)))).playSchedule schedule →
      (∀ task ∈ pool.tasks, task.outcome?.isSome = true) → Reachable settings pool.world
  | moved {w : World Leases ClaimRecords Fleet} {readings : Supply Instant} :
      Reachable settings w → readings.Regular settings.mutex.expiry settings.retention →
      (∀ name lease, w.locks.granted.get? name = some lease →
        lease.isLive readings.first = false) →
      Reachable settings { w with clock := .going readings }

/-- In every reachable state the clock is in order and no lease is live. -/
theorem Reachable.healthy {w : World Leases ClaimRecords Fleet} (h : Reachable settings w) :
    ∃ readings : Supply Instant, w.clock = .going readings ∧
      readings.Regular settings.mutex.expiry settings.retention ∧
      w.locks.Idle readings.first := by
  induction h with
  | fresh locks claims rockets clock regular =>
      refine ⟨_, clock, regular, ?_⟩
      rw [locks]
      exact Leases.idle_empty _
  | served requests schedule _ made ended ih =>
      rcases ih with ⟨readings, clock, regular, idle⟩
      have accounted := (Pool.accounted_start clock idle (honest_of_mem requests)).play regular
        schedule
      rw [← made] at accounted
      rcases accounted.clock with ⟨taken, going⟩
      refine ⟨_, going, regular.drop taken, accounted.idle ended ?_⟩
      rw [going]
      rfl
  | moved _ regular unrevived ih =>
      rcases ih with ⟨_, _, _, idle⟩
      exact ⟨_, rfl, regular, idle.whole, unrevived⟩

/-! ## Posting -/

theorem status_of_isMendable {cause : Refusal} (mendable : cause.isMendable = true) :
    400 ≤ (Verdict.ofRefusal cause).status ∧ (Verdict.ofRefusal cause).status < 500 := by
  cases cause with
  | storeFailed reason =>
      cases mendable
  | _ =>
      simp [Verdict.ofRefusal]

theorem status_of_unresolved (cause : ResolutionFault) :
    400 ≤ (posted (.error (.unresolved cause))).status ∧
      (posted (.error (.unresolved cause))).status < 500 := by
  have status : (posted (.error (.unresolved cause))).status = 400 := by
    cases cause <;> rfl
  omega

theorem status_of_answered {p : Processor} {event : RocketEvent} {now : Instant}
    {w w' : World Leases ClaimRecords Fleet} {cause : DeliveryFault}
    (h : World.Answered p event now w (.error cause) w') :
    400 ≤ (posted (.error cause)).status ∧ (posted (.error cause)).status < 500 := by
  cases h with
  | duplicate live rockets claims =>
      show 400 ≤ 409 ∧ 409 < 500
      omega
  | refused free mendable plain rockets claims =>
      exact status_of_isMendable mendable

/--
In every reachable state, while the clock stands, a message is answered with 204 and is a duplicate
when it is posted again, or it is answered with a status of the four hundreds, now and again, and
changes neither the rockets nor the live claims.  Getting something changes nothing in any state.
-/
theorem posted_and_reposted {w : World Leases ClaimRecords Fleet} (reached : Reachable settings w)
    {now : Instant} (clock : w.clock = .standing now) :
    (∀ request : Request, request.method = "POST" →
        Route.ofPath? request.target.path = some .messages →
        ∃ response w', World.play (respond (.ofSettings settings) request) w =
            (.returned response, w') ∧
          ((response.status = 204 ∧
              ∃ failure w'', failure.verdict = ⟨409, "duplicate_event"⟩ ∧
                World.play (respond (.ofSettings settings) request) w' =
                  (.returned (Failure.response failure), w'') ∧
                w''.rockets = w'.rockets) ∨
            (400 ≤ response.status ∧ response.status < 500 ∧ w'.rockets = w.rockets ∧
              (∀ eventId later, now ≤ later →
                w'.claims.liveAt later eventId = w.claims.liveAt later eventId) ∧
              ∃ w'', World.play (respond (.ofSettings settings) request) w' =
                (.returned response, w'')))) ∧
      ∀ request : Request, request.method = "GET" → ∀ v : World Leases ClaimRecords Fleet,
        (World.play (respond (.ofSettings settings) request) v).2 = v := by
  rcases reached.healthy with ⟨readings, going, regular, idle⟩
  have standing : readings = .always now := Clock.going.inj (going.symm.trans clock)
  subst standing
  have passes := regular.leases 0
  have lasting : (Service.ofSettings settings).processor.mutex.Lasting now :=
    ⟨passes.positive, passes.short, passes.tellable⟩
  constructor
  · intro request post path
    by_cases long : bodyLimit < request.body.length
    · have answered (v : World Leases ClaimRecords Fleet) :
          World.play (respond (.ofSettings settings) request) v =
            (.returned { status := 413 }, v) := by
        rw [respond_of_post _ post path, if_pos long]
        rfl
      exact ⟨_, w, answered w, .inr ⟨by decide, by decide, rfl, fun _ _ _ => rfl, w, answered w⟩⟩
    · cases resolved : RocketEvent.ofBody request.body with
      | error cause =>
          have answered (v : World Leases ClaimRecords Fleet) :
              World.play (respond (.ofSettings settings) request) v =
                (.returned (posted (.error (.unresolved cause))), v) :=
            play_respond_of_post post path long (World.process_unresolved resolved v)
          have status := status_of_unresolved cause
          exact ⟨_, w, answered w,
            .inr ⟨status.1, status.2, rfl, fun _ _ _ => rfl, w, answered w⟩⟩
      | ok event =>
          -- the first delivery leaves no live lease either, so the second is answered likewise
          rcases World.process_answered rfl lasting (regular.claims 0) resolved idle clock with
            ⟨result, w', played, told, idle', clock'⟩
          rcases World.process_answered rfl lasting (regular.claims 0) resolved idle' clock' with
            ⟨again, w'', playedAgain, toldAgain, _, _⟩
          have first := play_respond_of_post post path long played
          have second := play_respond_of_post post path long playedAgain
          refine ⟨_, w', first, ?_⟩
          cases result with
          | ok eventId =>
              rcases told.duplicate_of_ok toldAgain with ⟨rfl, rockets⟩
              exact .inl ⟨rfl, .processing (.duplicate event.eventId), w'', rfl, second, rockets⟩
          | error cause =>
              rcases told.same_of_error rfl toldAgain with ⟨rfl, rockets, claims⟩
              have status := status_of_answered told
              exact .inr ⟨status.1, status.2, rockets, claims, w'', second⟩
  · intro request get v
    exact play_respond_of_get settings get v

/-! ## A launch -/

def message (body : Bytes) : Request :=
  { method := "POST", target := { path := Text.bytes "/messages" }, body := body }

theorem ofPath?_message (body : Bytes) :
    Route.ofPath? (message body).target.path = some .messages := by
  show Route.ofPath? (Text.bytes "/messages") = some .messages
  decide +kernel

theorem respond_message (service : Service) {body : Bytes} {event : RocketEvent}
    (short : ¬bodyLimit < body.length) (resolved : RocketEvent.ofBody body = .ok event) :
    respond service (message body) =
      (service.processor.handleOnce event).task.bind fun outcome =>
        .done (posted (Processor.concluded event.eventId outcome)) := by
  have whole : ¬bodyLimit < (message body).body.length := short
  rw [respond_of_post service rfl (ofPath?_message body), if_neg whole]
  show (service.processor.process body).bind _ = _
  rw [service.processor.process_of_ok event resolved, Script.bind_assoc]
  rfl

def listing : Request :=
  { method := "GET", target := { path := Text.bytes "/rockets" } }

def unvisited : World Leases ClaimRecords Fleet :=
  { locks := {}, claims := .start .epoch, rockets := .empty, clock := .standing .epoch }

def visit : Pool Leases ClaimRecords Fleet Response :=
  (Pool.start unvisited
    ([message World.accelerationBody, listing].map (respond (.ofSettings {})))).playSchedule
      (.flatten (.replicate 20 [0, 1]))

theorem launch_posted_and_reposted :
    Reachable {} visit.world ∧ visit.world.clock = .standing .epoch ∧
      ∃ response w' failure w'',
        World.play (respond (.ofSettings {}) (message World.otherLaunchBody)) visit.world =
          (.returned response, w') ∧
        response.status = 204 ∧ failure.verdict = ⟨409, "duplicate_event"⟩ ∧
        World.play (respond (.ofSettings {}) (message World.otherLaunchBody)) w' =
          (.returned (Failure.response failure), w'') ∧
        w''.rockets = w'.rockets := by
  have tellable : (Instant.epoch.after? ({} : Settings).mutex.expiry).isSome = true ∧
      (Instant.epoch.after? ({} : Settings).retention).isSome = true := by
    decide +kernel
  have regular : (Supply.always Instant.epoch).Regular ({} : Settings).mutex.expiry
      ({} : Settings).retention := by
    constructor
    · intro n
      exact Instant.le_refl _
    · intro n
      exact ⟨by decide, by decide, tellable.1⟩
    · intro n
      exact ⟨by decide, by decide, tellable.2⟩
  have short : ¬bodyLimit < World.otherLaunchBody.length ∧
      ¬bodyLimit < World.accelerationBody.length := by
    decide +kernel
  -- the bodies are resolved once, and only what is done with their events is played
  have accelerate := respond_message (.ofSettings {}) short.2 World.ofBody_accelerationBody
  have launch := respond_message (.ofSettings {}) short.1 World.ofBody_otherLaunchBody
  have reached : Reachable {} visit.world := by
    refine .served [message World.accelerationBody, listing] (.flatten (.replicate 20 [0, 1]))
      (.fresh (w := unvisited) rfl rfl rfl rfl regular) rfl ?_
    unfold visit
    rw [List.map_cons, accelerate]
    decide +kernel
  have clock : visit.world.clock = .standing .epoch := by
    have accounted := (Pool.accounted_start (w := unvisited) rfl (Leases.idle_empty .epoch)
      (honest_of_mem [message World.accelerationBody, listing])).play regular
        (.flatten (.replicate 20 [0, 1]))
    rcases accounted.clock with ⟨taken, still⟩
    exact still
  have status : (World.play (respond (.ofSettings {}) (message World.otherLaunchBody))
      visit.world).1.map (·.status) = .returned 204 := by
    rw [launch]
    unfold visit
    rw [List.map_cons, accelerate]
    decide +kernel
  refine ⟨reached, clock, ?_⟩
  rcases (posted_and_reposted reached clock).1 (message World.otherLaunchBody) rfl
    (ofPath?_message _) with ⟨response, w', played, answered⟩
  rw [played] at status
  have told : response.status = 204 := Outcome.returned.inj status
  rcases answered with ⟨_, failure, w'', verdict, again, rockets⟩ | ⟨fault, _⟩
  · exact ⟨response, w', failure, w'', played, told, verdict, again, rockets⟩
  · omega

end Http
end MissionControl
