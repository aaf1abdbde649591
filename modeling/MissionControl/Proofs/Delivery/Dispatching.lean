import MissionControl.Claim.Records
import MissionControl.Proofs.Event.Effect
import MissionControl.Proofs.Lock.Protocol

/-!
# The course of a dispatch

A dispatch of an event under the lock of its rocket, over a fleet and claim records, leaves the
claims alone.  It tells of success where the handler ran once and succeeded; where it tells of
failure, the records of all rockets are as they were.
-/

namespace MissionControl

/-! ## Buses -/

namespace Bus

variable {ι ο : Type}

def settled (type : String) : Except MutexFault (Except HandlerFault ο) → Except BusFault ο
  | .error cause => .error (.lockFailed type cause)
  | .ok result => result.mapError (.ofHandler type)

theorem dispatch_unregistered [Input ι] {bus : Bus ι ο} {input : ι}
    (missing : bus.handler? (Input.type input) = none) :
    bus.dispatch input = .done (.error (.noHandler (Input.type input))) := by
  simp only [dispatch, missing]
  rfl

theorem dispatch_registered [Input ι] {bus : Bus ι ο} {input : ι} {handler : Handler ι ο}
    (registered : bus.handler? (Input.type input) = some handler) :
    bus.dispatch input = (handler input).bind fun result =>
      .done (result.mapError (.ofHandler (Input.type input))) := by
  simp only [dispatch, registered]
  rfl

variable [ExclusiveInput ι] {m : Mutex} {bus : Bus ι ο} {input : ι}

theorem dispatchExclusively_unregistered (missing : bus.handler? (Input.type input) = none) :
    bus.dispatchExclusively m input = .done (.error (.noHandler (Input.type input))) := by
  simp only [dispatchExclusively, missing]
  rfl

theorem dispatchExclusively_registered {handler : Handler ι ο}
    (registered : bus.handler? (Input.type input) = some handler) :
    bus.dispatchExclusively m input =
      (m.exclusively (ExclusiveInput.lockKey input) (handler input)).bind fun result =>
        .done (settled (Input.type input) result) := by
  simp only [dispatchExclusively, registered]
  apply congrArg (Script.bind _)
  funext result
  cases result <;> rfl

end Bus

/-! ## The bus of events -/

namespace EventBus

def HandlersAmong (entries : List (String × Handler RocketEvent Unit)) (bus : EventBus) : Prop :=
  ∀ type handler, bus.handler? type = some handler → ∃ name, (name, handler) ∈ entries

theorem handlersAmong_register {entries : List (String × Handler RocketEvent Unit)}
    {bus registered : EventBus} {entry : String × Handler RocketEvent Unit}
    (h : HandlersAmong entries bus) (mem : entry ∈ entries)
    (taken : bus.register entry.1 entry.2 = .ok registered) :
    HandlersAmong entries registered := by
  unfold Bus.register at taken
  split at taken
  · cases taken
  · cases taken
    intro type handler found
    unfold Bus.handler? at found
    rw [Register.get?_put] at found
    split at found
    · cases found
      exact ⟨entry.1, mem⟩
    · exact h type handler found

theorem handlersAmong_ofList (entries : List (String × Handler RocketEvent Unit)) :
    HandlersAmong entries (Bus.ofList entries) := by
  unfold Bus.ofList
  refine List.foldlRecOn (motive := HandlersAmong entries) entries _ ?_ fun bus kept entry mem => ?_
  · intro type handler h
    cases h
  · cases taken : bus.register entry.1 entry.2 with
    | error failure =>
        exact kept
    | ok registered =>
        exact handlersAmong_register kept mem taken

theorem exists_of_handler?_ofHandlers {handlers : List (String × EventHandler)} {type : String}
    {h : Handler RocketEvent Unit} (registered : (ofHandlers handlers).handler? type = some h) :
    ∃ handler : EventHandler, h = handler.handle := by
  rcases handlersAmong_ofList _ type h registered with ⟨name, mem⟩
  rcases List.mem_map.mp mem with ⟨entry, _, same⟩
  cases same
  exact ⟨entry.2, rfl⟩

end EventBus

/-! ## One run of the handler -/

namespace World

variable {L : Type} [LockStore L]

/--
While a script is played, the handler of an event runs once and succeeds, nothing else touches the
store of rockets, and what the handler makes of the store remains.
-/
structure HandledOnce {γ : Type} (bus : EventBus) (event : RocketEvent) (s : Script γ)
    (w : World L ClaimRecords Fleet) (handler : EventHandler)
    (before after : List (Moment L ClaimRecords Fleet)) (held : World L ClaimRecords Fleet) :
    Prop where
  registered : bus.handler? event.kind.type.name = some handler.handle
  once : moments s w = before ++ moments (handler.handle event) held ++ after
  apartBefore : ∀ x ∈ before, x.call.isOnRockets = false
  apartAfter : ∀ x ∈ after, x.call.isOnRockets = false
  succeeded : (play (handler.handle event) held).1 = .returned (.ok ())
  heldRockets : held.rockets = w.rockets
  rockets : (play s w).2.rockets = (play (handler.handle event) held).2.rockets

namespace HandledOnce

variable {γ δ : Type} {bus : EventBus} {event : RocketEvent} {s : Script γ} {t : Script δ}
  {w v held : World L ClaimRecords Fleet} {handler : EventHandler}
  {before after earlier later : List (Moment L ClaimRecords Fleet)}

theorem within (h : HandledOnce bus event s v handler before after held)
    (split : moments t w = earlier ++ moments s v ++ later)
    (apartEarlier : ∀ x ∈ earlier, x.call.isOnRockets = false)
    (apartLater : ∀ x ∈ later, x.call.isOnRockets = false)
    (start : v.rockets = w.rockets) (ending : (play t w).2.rockets = (play s v).2.rockets) :
    HandledOnce bus event t w handler (earlier ++ before) (after ++ later) held where
  registered := h.registered
  once := by
    rw [split, h.once]
    simp only [List.append_assoc]
  apartBefore := by
    intro x mem
    rcases List.mem_append.mp mem with first | second
    · exact apartEarlier x first
    · exact h.apartBefore x second
  apartAfter := by
    intro x mem
    rcases List.mem_append.mp mem with first | second
    · exact h.apartAfter x first
    · exact apartLater x second
  succeeded := h.succeeded
  heldRockets := h.heldRockets.trans start
  rockets := ending.trans h.rockets

theorem ending (h : HandledOnce bus event s w handler before after held) {value : γ} {last : δ}
    {w' : World L ClaimRecords Fleet} {f : γ → Script δ}
    (played : play s w = (.returned value, w')) (ends : f value = .done last) :
    HandledOnce bus event (s.bind f) w handler before after held := by
  have split : moments (s.bind f) w = [] ++ moments s w ++ [] := by
    rw [moments_bind_of_returned played, ends, moments_done, List.nil_append]
  have whole := h.within split (fun x mem => absurd mem List.not_mem_nil)
    (fun x mem => absurd mem List.not_mem_nil) rfl
    (by rw [play_bind_of_returned played, ends, played, play_done])
  rwa [List.nil_append, List.append_nil] at whole

theorem elsewhere (h : HandledOnce bus event s w handler before after held) {text : String}
    (apart : text ≠ event.rocketId) :
    (play s w).2.rockets.recordAt text = w.rockets.recordAt text := by
  rw [h.rockets]
  rcases play_handle handler event held with ⟨failure, played⟩ | ⟨r, same, played⟩
  · rw [played, h.heldRockets]
  · rw [played]
    show (held.rockets.save r).recordAt text = _
    rw [Fleet.recordAt_save, same, if_neg apart, h.heldRockets]

end HandledOnce

/-! ## Dispatching under the lock -/

def succeeded : Except BusFault Unit → Bool
  | .ok () => true
  | .error cause => cause.followsSuccess

def dispatched (type : String) :
    Except MutexFault (Except HandlerFault Unit) → Except BusFault Unit
  | .error cause => .error (.lockFailed type cause)
  | .ok result => result.mapError (.ofHandler type)

theorem dispatch_of_none {bus : EventBus} {event : RocketEvent}
    (missing : bus.handler? event.kind.type.name = none) :
    bus.dispatch event = .done (.error (.noHandler event.kind.type.name)) :=
  Bus.dispatch_unregistered missing

theorem dispatch_of_some {bus : EventBus} {event : RocketEvent}
    {handler : Handler RocketEvent Unit}
    (registered : bus.handler? event.kind.type.name = some handler) :
    bus.dispatch event = (handler event).bind fun result =>
      .done (result.mapError (.ofHandler event.kind.type.name)) :=
  Bus.dispatch_registered registered

theorem dispatchExclusively_of_none {bus : EventBus} {event : RocketEvent} (m : Mutex)
    (missing : bus.handler? event.kind.type.name = none) :
    bus.dispatchExclusively m event = .done (.error (.noHandler event.kind.type.name)) :=
  Bus.dispatchExclusively_unregistered missing

theorem dispatchExclusively_of_some {bus : EventBus} {event : RocketEvent} (m : Mutex)
    {handler : Handler RocketEvent Unit}
    (registered : bus.handler? event.kind.type.name = some handler) :
    bus.dispatchExclusively m event =
      (m.exclusively event.lockKey (handler event)).bind fun result =>
        .done (dispatched event.kind.type.name result) := by
  refine (Bus.dispatchExclusively_registered registered).trans ?_
  apply congrArg (Script.bind _)
  funext result
  cases result <;> rfl

theorem only_dispatchExclusively {allowed : Call → Prop} (handlers : List (String × EventHandler))
    (m : Mutex) (event : RocketEvent) (rockets : ∀ c : Call, c.isOnRockets = true → allowed c)
    (coordination : ∀ c : Call, c.isCoordination = true → allowed c) :
    ((EventBus.ofHandlers handlers).dispatchExclusively m event).Only allowed := by
  cases found : (EventBus.ofHandlers handlers).handler? event.kind.type.name with
  | none =>
      rw [dispatchExclusively_of_none m found]
      trivial
  | some registered =>
      rcases EventBus.exists_of_handler?_ofHandlers found with ⟨handler, rfl⟩
      rw [dispatchExclusively_of_some m found]
      refine (m.only_exclusively event.lockKey ?_ coordination).bind fun _ => trivial
      exact (handler.only_handle event).mono rockets

namespace LetIn

variable {m : Mutex} {handler : EventHandler} {event : RocketEvent}
  {w held : World L ClaimRecords Fleet} {asked given : List LockReply}
  {released : Except LockFault Unit} {before after : List (Moment L ClaimRecords Fleet)}

theorem handledOnce {bus : EventBus}
    (h : LetIn m event.lockKey (handler.handle event) w asked given released before after held)
    (registered : bus.handler? event.kind.type.name = some handler.handle)
    (ran : (play (handler.handle event) held).1 = .returned (.ok ())) :
    HandledOnce bus event (m.exclusively event.lockKey (handler.handle event)) w handler before
      after held where
  registered := registered
  once := h.once
  apartBefore x mem := Call.isOnRockets_of_isCoordination (h.onlyBefore x mem)
  apartAfter x mem := Call.isOnRockets_of_isCoordination (h.onlyAfter x mem)
  succeeded := ran
  heldRockets := h.heldRockets
  rockets := h.rockets

theorem succeeded {result : Except HandlerFault Unit}
    (h : LetIn m event.lockKey (handler.handle event) w asked given released before after held)
    (ran : (play (handler.handle event) held).1 = .returned result) (type : String) :
    ∃ passed, (play (m.exclusively event.lockKey (handler.handle event)) w).1 =
        .returned passed ∧
      World.succeeded (dispatched type passed) = Mutex.succeeded (.returned result) := by
  cases back : released with
  | ok gone =>
      refine ⟨_, h.returned result back ran, ?_⟩
      cases result with
      | ok value =>
          rfl
      | error failure =>
          cases failure <;> rfl
  | error cause =>
      refine ⟨_, h.unreleased cause back, ?_⟩
      rw [ran]
      rfl

end LetIn

/-- A dispatch tells of success where the handler ran once, and leaves everything otherwise. -/
theorem dispatchExclusively_course {handlers : List (String × EventHandler)} {m : Mutex}
    {event : RocketEvent} {w : World L ClaimRecords Fleet}
    (calm : LocksAnswer ((EventBus.ofHandlers handlers).dispatchExclusively m event) w) :
    ∃ result w', play ((EventBus.ofHandlers handlers).dispatchExclusively m event) w =
        (.returned result, w') ∧ w'.claims = w.claims ∧
      ((succeeded result = true ∧ ∃ handler before after held,
          HandledOnce (EventBus.ofHandlers handlers) event
            ((EventBus.ofHandlers handlers).dispatchExclusively m event) w handler before after
            held) ∨
        (succeeded result = false ∧ w'.rockets = w.rockets)) := by
  cases found : (EventBus.ofHandlers handlers).handler? event.kind.type.name with
  | none =>
      rw [dispatchExclusively_of_none m found]
      exact ⟨_, w, rfl, rfl, .inr ⟨rfl, rfl⟩⟩
  | some registered =>
      rcases EventBus.exists_of_handler?_ofHandlers found with ⟨handler, rfl⟩
      rw [dispatchExclusively_of_some m found] at calm ⊢
      rcases exclusively_kept_out_or_let_in m event.lockKey (handler.handle event) w calm.first with
        ⟨asked, cause, cleared, keptOut⟩ | ⟨asked, given, released, before, after, held, letIn⟩
      · have played : play (m.exclusively event.lockKey (handler.handle event)) w = (_, _) :=
          Prod.ext keptOut.result rfl
        exact ⟨_, _, play_bind_of_returned played, keptOut.claims, .inr ⟨rfl, keptOut.rockets⟩⟩
      · have claims := letIn.claims
        rcases play_handle handler event held with ⟨failure, ran⟩ | ⟨r, same, ran⟩
        · rcases letIn.succeeded (congrArg Prod.fst ran) _ with ⟨passed, told, fails⟩
          have played : play (m.exclusively event.lockKey (handler.handle event)) w = (_, _) :=
            Prod.ext told rfl
          have rockets := letIn.rockets
          rw [ran] at claims rockets
          exact ⟨_, _, play_bind_of_returned played, claims.trans letIn.heldClaims,
            .inr ⟨fails, rockets.trans letIn.heldRockets⟩⟩
        · rcases letIn.succeeded (congrArg Prod.fst ran) _ with ⟨passed, told, succeeds⟩
          have played : play (m.exclusively event.lockKey (handler.handle event)) w = (_, _) :=
            Prod.ext told rfl
          rw [ran] at claims
          refine ⟨_, _, play_bind_of_returned played, claims.trans letIn.heldClaims,
            .inl ⟨succeeds, handler, before, after, held, ?_⟩⟩
          exact (letIn.handledOnce found (congrArg Prod.fst ran)).ending played rfl

end World

end MissionControl
