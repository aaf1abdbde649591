import MissionControl.Proofs.Delivery.Dispatching
import MissionControl.StandIn.Rockets

/-!
# Exclusive dispatches

A bus that dispatches an input under the lock for its key passes it to the same handler as one that
does without a lock.  Where the lock store grants the lock and takes it back, however often it has
to be asked, both dispatches come to the same and leave the same rockets.  Only a panic is told
otherwise: under a lock it ends the handler's task, and the dispatch fails.
-/

namespace MissionControl

/-! ## Attempts that fail -/

theorem Tried.refused {patience : Duration} {no cause : LockFault} {limit : Nat}
    {replies : List LockReply} (h : Tried patience no limit replies (.error cause)) :
    ∀ reply ∈ replies, reply.grants patience = false := by
  cases h with
  | spent failures last failed final short =>
      intro reply mem
      rcases List.mem_append.mp mem with early | late
      · exact failed reply early
      · rw [List.mem_singleton.mp late]
        exact final

namespace World

variable {L C R ε α β : Type} [LockStore L] [ClaimStore C] [RocketStore R]

/-! ## Handlers that keep to the rockets -/

theorem serve_congr_onRockets {c : Call} (h : c.isOnRockets = true) {v w : World L C R}
    (same : v.rockets = w.rockets) :
    (v.serve c).reply = (w.serve c).reply ∧
      (v.serve c).world.rockets = (w.serve c).world.rockets := by
  cases c with
  | findRocket id =>
      exact ⟨congrArg (fun store => Outcome.returned (RocketStore.find id store)) same, same⟩
  | isKnown id =>
      exact ⟨congrArg (fun store => Outcome.returned (RocketStore.isKnown id store)) same, same⟩
  | listRockets key =>
      exact ⟨congrArg (fun store => Outcome.returned (RocketStore.listing key store)) same, same⟩
  | saveRocket r =>
      exact ⟨congrArg (fun store => (RocketStore.save r store).1) same,
        congrArg (fun store => (RocketStore.save r store).2) same⟩
  | _ =>
      cases h

/-- What a script that keeps to the rockets comes to, and what it makes of them, depends on them
alone. -/
theorem play_congr_onRockets {s : Script α} (h : s.Only fun c => c.isOnRockets = true)
    {v w : World L C R} (same : v.rockets = w.rockets) :
    (play s v).1 = (play s w).1 ∧ (play s v).2.rockets = (play s w).2.rockets := by
  induction s generalizing v w with
  | done value =>
      exact ⟨rfl, same⟩
  | panicked message =>
      exact ⟨rfl, same⟩
  | call c next ih =>
      rcases serve_congr_onRockets h.1 same with ⟨reply, rockets⟩
      rw [play_call, play_call, reply]
      exact ih _ (h.2 _) rockets

/-! ## Locks that are granted and taken back -/

def wasGranted : Call × LockReply → Bool
  | (.acquire _ _ _ patience, reply) => reply.grants patience
  | _ => false

def wasTakenBack : Call × LockReply → Bool
  | (.release _ _ patience, reply) => reply.grants patience
  | _ => false

/-- No call on the lock store panics, and some attempt to acquire a lock and some attempt to give it
back are answered with yes in time. -/
structure LetsThrough (s : Script α) (w : World L C R) : Prop where
  calm : LocksAnswer s w
  granted : ∃ exchange ∈ lockLog (moments s w), wasGranted exchange = true
  takenBack : ∃ exchange ∈ lockLog (moments s w), wasTakenBack exchange = true

theorem LetsThrough.of_bind_done {s : Script α} {f : α → β} {w : World L C R}
    (h : LetsThrough (s.bind fun value => .done (f value)) w) : LetsThrough s w := by
  rcases h with ⟨calm, granted, takenBack⟩
  unfold LocksAnswer at calm
  rw [moments_bind_value] at calm granted takenBack
  exact ⟨calm, granted, takenBack⟩

variable {m : Mutex} {key : String} {operation : Script (Except ε α)} {w : World L C R}

theorem KeptOut.not_letsThrough {asked : List LockReply} {cause : LockFault} {cleared : LockReply}
    (h : KeptOut m key (.done operation) w asked cause cleared) :
    ¬LetsThrough (m.callExclusively key (.done operation)) w := by
  intro through
  rcases through.granted with ⟨exchange, mem, granted⟩
  rw [h.log] at mem
  rcases List.mem_append.mp mem with asking | clearing
  · rcases List.mem_map.mp asking with ⟨reply, among, rfl⟩
    cases (h.tried.refused reply among).symm.trans granted
  · rw [List.mem_singleton.mp clearing] at granted
    cases granted

theorem LetIn.released_of_letsThrough {asked given : List LockReply}
    {released : Except LockFault Unit} {before after : List (Moment L C R)} {held : World L C R}
    (h : LetIn m key operation w asked given released before after held)
    (quiet : operation.Only fun c => c.isOnLocks = false)
    (through : LetsThrough (m.exclusively key operation) w) : released = .ok () := by
  rcases through.takenBack with ⟨exchange, mem, takenBack⟩
  -- the procedure itself asks for no lock, so the yes was an answer to giving this one back
  rw [h.once, lockLog_append, lockLog_append, lockLog_eq_nil quiet, List.append_nil, h.logBefore,
    h.logAfter] at mem
  cases released with
  | ok returned =>
      rfl
  | error cause =>
      rcases List.mem_append.mp mem with asking | returning
      · rcases List.mem_map.mp asking with ⟨reply, _, rfl⟩
        cases takenBack
      · rcases List.mem_map.mp returning with ⟨reply, among, rfl⟩
        cases (h.returning.refused reply among).symm.trans takenBack

/--
A procedure under a lock that is granted and taken back is played once, at the moment of the grant,
and comes to what it comes to there.
-/
theorem play_exclusively_of_letsThrough (quiet : operation.Only fun c => c.isOnLocks = false)
    (through : LetsThrough (m.exclusively key operation) w) :
    ∃ held : World L C R, held.rockets = w.rockets ∧ held.claims = w.claims ∧
      (play (m.exclusively key operation) w).1 =
        .returned (Mutex.settle (m.lockFor key) (play operation held).1 (.ok ())) ∧
      (play (m.exclusively key operation) w).2.rockets = (play operation held).2.rockets ∧
      (play (m.exclusively key operation) w).2.claims = (play operation held).2.claims := by
  rcases exclusively_kept_out_or_let_in m key operation w through.calm with
    ⟨asked, cause, cleared, keptOut⟩ | ⟨asked, given, released, before, after, held, letIn⟩
  · exact absurd through keptOut.not_letsThrough
  · have back := letIn.released_of_letsThrough quiet through
    refine ⟨held, letIn.heldRockets, letIn.heldClaims, ?_, letIn.rockets, letIn.claims⟩
    cases ran : (play operation held).1 with
    | returned result =>
        exact letIn.returned result back ran
    | panicked message =>
        exact letIn.panicked message back ran

end World

/-! ## Dispatches -/

theorem EventBus.onRockets_of_handler?_ofHandlers {handlers : List (String × EventHandler)}
    {type : String} {h : Handler RocketEvent Unit}
    (registered : (ofHandlers handlers).handler? type = some h) (event : RocketEvent) :
    (h event).Only fun c => c.isOnRockets = true := by
  rcases exists_of_handler?_ofHandlers registered with ⟨handler, rfl⟩
  exact handler.only_handle event

namespace Bus

variable {ι ο : Type}

/-- What is told of a dispatch under a lock, by what the dispatch comes to without one. -/
def toldExclusively (type lock : String) : Outcome (Except BusFault ο) → Except BusFault ο
  | .returned result => result
  | .panicked message => .error (.lockFailed type (.aborted lock (Script.abortReason message)))

theorem settled_settle (type lock : String) (outcome : Outcome (Except HandlerFault ο)) :
    settled type (Mutex.settle lock outcome (.ok ())) =
      toldExclusively type lock (outcome.map fun result => result.mapError (.ofHandler type)) := by
  cases outcome <;> rfl

end Bus

namespace World

variable {ι ο L C R : Type} [ExclusiveInput ι] [LockStore L] [ClaimStore C] [RocketStore R]
  {m : Mutex} {bus : Bus ι ο} {input : ι} {v w : World L C R}

/-- A dispatch under a lock, in the one world, comes to what a dispatch comes to in the other. -/
structure DispatchesAlike (m : Mutex) (bus : Bus ι ο) (input : ι) (w held : World L C R) :
    Prop where
  told : (play (bus.dispatchExclusively m input) w).1 =
    .returned (Bus.toldExclusively (Input.type input) (m.lockFor (ExclusiveInput.lockKey input))
      (play (bus.dispatch input) held).1)
  rockets : (play (bus.dispatchExclusively m input) w).2.rockets =
    (play (bus.dispatch input) held).2.rockets
  claims : (play (bus.dispatchExclusively m input) w).2.claims =
    (play (bus.dispatch input) held).2.claims

theorem dispatchesAlike_of_letsThrough {handler : Handler ι ο}
    (registered : bus.handler? (Input.type input) = some handler)
    (quiet : (handler input).Only fun c => c.isOnLocks = false)
    (through : LetsThrough (bus.dispatchExclusively m input) w) :
    ∃ held : World L C R, held.rockets = w.rockets ∧ held.claims = w.claims ∧
      DispatchesAlike m bus input w held := by
  have exclusive := Bus.dispatchExclusively_registered (m := m) registered
  have plain := Bus.dispatch_registered registered
  rw [exclusive] at through
  rcases play_exclusively_of_letsThrough quiet through.of_bind_done with
    ⟨held, sameRockets, sameClaims, told, rockets, claims⟩
  refine ⟨held, sameRockets, sameClaims, ?_, ?_, ?_⟩
  · rw [exclusive, plain, play_bind_value, play_bind_value, told, Outcome.map,
      Bus.settled_settle]
  · rw [exclusive, plain, play_bind_value, play_bind_value]
    exact rockets
  · rw [exclusive, plain, play_bind_value, play_bind_value]
    exact claims

theorem DispatchesAlike.of_onRockets {handler : Handler ι ο} {held : World L C R}
    (h : DispatchesAlike m bus input w held)
    (registered : bus.handler? (Input.type input) = some handler)
    (only : (handler input).Only fun c => c.isOnRockets = true)
    (rockets : held.rockets = w.rockets) (claims : held.claims = w.claims) :
    DispatchesAlike m bus input w w := by
  have dispatchOnly : (bus.dispatch input).Only fun c => c.isOnRockets = true := by
    rw [Bus.dispatch_registered registered]
    exact only.bind fun _ => trivial
  have unclaiming : (bus.dispatch input).Only fun c => c.isOnClaims = false :=
    dispatchOnly.mono fun _ => Call.isOnClaims_of_isOnRockets
  rcases play_congr_onRockets dispatchOnly rockets with ⟨told, left⟩
  refine ⟨?_, h.rockets.trans left, ?_⟩
  · rw [h.told, told]
  · rw [h.claims, claims_play unclaiming, claims_play unclaiming, claims]

/--
Whatever the handlers and the stores, a dispatch under a lock that is granted and taken back comes
to what a dispatch without one comes to at the moment of the grant, and to what it comes to at once
where the handler keeps to the rockets.  Without a handler, neither does anything.
-/
theorem dispatches_agree (m : Mutex) (bus : Bus ι ο) (input : ι) (w : World L C R) :
    (bus.handler? (Input.type input) = none →
      play (bus.dispatch input) w = (.returned (.error (.noHandler (Input.type input))), w) ∧
        play (bus.dispatchExclusively m input) w =
          (.returned (.error (.noHandler (Input.type input))), w) ∧
        moments (bus.dispatchExclusively m input) w = []) ∧
      ∀ handler, bus.handler? (Input.type input) = some handler →
        LetsThrough (bus.dispatchExclusively m input) w →
        (((handler input).Only fun c => c.isOnRockets = true) →
          DispatchesAlike m bus input w w) ∧
        (((handler input).Only fun c => c.isOnLocks = false) →
          ∃ held : World L C R, held.rockets = w.rockets ∧ held.claims = w.claims ∧
            DispatchesAlike m bus input w held) := by
  refine ⟨fun missing => ?_, fun handler registered through => ⟨fun only => ?_, fun quiet => ?_⟩⟩
  · rw [Bus.dispatch_unregistered missing, Bus.dispatchExclusively_unregistered missing]
    exact ⟨rfl, rfl, rfl⟩
  · have quiet := only.mono fun _ => Call.isOnLocks_of_isOnRockets
    rcases dispatchesAlike_of_letsThrough registered quiet through with
      ⟨held, rockets, claims, alike⟩
    exact alike.of_onRockets registered only rockets claims
  · exact dispatchesAlike_of_letsThrough registered quiet through

def reluctant (rockets : AnyRockets) : World AnyLocks ClaimRecords AnyRockets :=
  { locks := .told { acquires := [.no, .hangs, .yes], releases := [.fails "busy", .yes] }
    claims := .start .epoch
    rockets := rockets
    clock := .standing .epoch }

theorem dispatches_agree_at_third_attempt :
    (∀ rockets ∈ [AnyRockets.fleet oneRocket, .explosive oneRocket],
      DispatchesAlike { retries := 3 } (EventBus.full .notAfter) acceleration (reluctant rockets)
        (reluctant rockets)) ∧
      (play ((EventBus.full .notAfter).dispatchExclusively { retries := 3 } acceleration)
          (reluctant (.explosive oneRocket))).1 =
        .returned (.error (.lockFailed "RocketSpeedIncreased"
          (.aborted "distributed-sync-mutex:rocket:193270a9-c9cf-404a-8f83-838e71d9ae67"
            "task panicked with message \"store blew up\""))) ∧
      (play (({} : EventBus).dispatchExclusively {} acceleration) hesitant).1 =
        .returned (.error (.noHandler "RocketSpeedIncreased")) := by
  have registered : ((EventBus.full .notAfter).handler? (Input.type acceleration)).isSome =
      true := by
    decide +kernel
  rcases Option.isSome_iff_exists.mp registered with ⟨handler, found⟩
  have through : ∀ rockets ∈ [AnyRockets.fleet oneRocket, .explosive oneRocket],
      LetsThrough ((EventBus.full .notAfter).dispatchExclusively { retries := 3 } acceleration)
        (reluctant rockets) := by
    intro rockets mem
    rcases List.mem_pair.mp mem with rfl | rfl
    · exact ⟨by unfold LocksAnswer; decide +kernel, by decide +kernel, by decide +kernel⟩
    · exact ⟨by unfold LocksAnswer; decide +kernel, by decide +kernel, by decide +kernel⟩
  have alike : ∀ rockets ∈ [AnyRockets.fleet oneRocket, .explosive oneRocket],
      DispatchesAlike { retries := 3 } (EventBus.full .notAfter) acceleration (reluctant rockets)
        (reluctant rockets) := fun rockets mem =>
    ((dispatches_agree _ _ _ _).2 handler found (through rockets mem)).1
      (EventBus.onRockets_of_handler?_ofHandlers found acceleration)
  refine ⟨alike, ?_, ?_⟩
  · have panicked : (play ((EventBus.full .notAfter).dispatch acceleration)
        (reluctant (.explosive oneRocket))).1 = .panicked "store blew up" := by
      decide +kernel
    rw [(alike _ (by simp)).told, panicked]
    decide +kernel
  · rw [((dispatches_agree {} ({} : EventBus) acceleration hesitant).1 rfl).2.1]
    rfl

end World
end MissionControl
