import MissionControl.Claim.Records
import MissionControl.Fleet
import MissionControl.Proofs.Lock.Attempts
import MissionControl.StandIn.Locks

/-!
# The protocol of a procedure under a lock

A procedure under a lock is either kept out, with every attempt to acquire the lock spent and one
attempt to give it up, or let in: it then runs once, after the grant and before any attempt to give
the lock back.  A callback that panics before it has made its procedure is called after the grant
too, and the lock is left held.  The main statement tells all calls of the three courses and what
they come to.
-/

namespace MissionControl

/-- Whether a call is one of those by which a lock is acquired and given back. -/
def Call.isCoordination : Call → Bool
  | acquire _ _ _ _ => true
  | release _ _ _ => true
  | newToken => true
  | pause _ => true
  | draw => true
  | _ => false

namespace Call

theorem isOnRockets_of_isCoordination {c : Call} (h : c.isCoordination = true) :
    c.isOnRockets = false := by
  cases c <;> first | rfl | cases h

theorem isOnClaims_of_isCoordination {c : Call} (h : c.isCoordination = true) :
    c.isOnClaims = false := by
  cases c <;> first | rfl | cases h

theorem isClaim_of_isCoordination {c : Call} (h : c.isCoordination = true) :
    c.isClaim = false := by
  cases c <;> first | rfl | cases h

theorem movesClock_of_isCoordination {c : Call} (h : c.isCoordination = true) :
    c.movesClock = false := by
  cases c <;> first | rfl | cases h

theorem isCoordination_of_isIdle {c : Call} (h : c.isIdle = true) : c.isCoordination = true := by
  cases c <;> first | rfl | cases h

end Call

/-! ## The parts of the procedure -/

namespace LockRequest

def retried (m : Mutex) (r : LockRequest) : Script (Except LockFault Unit) :=
  m.retrying.retry fun _ => r.attempt m.patience

theorem only_attempt {allowed : Call → Prop} {patience : Duration} {r : LockRequest}
    (h : allowed (r.call patience)) : (r.attempt patience).Only allowed := by
  cases r with
  | acquire name token expiry =>
      exact (Script.Only.perform h).bind fun _ => trivial
  | release name token =>
      exact (Script.Only.perform h).bind fun _ => trivial

theorem only_retried {allowed : Call → Prop} {m : Mutex} {r : LockRequest}
    (h : allowed (r.call m.patience)) (idle : ∀ c : Call, c.isIdle = true → allowed c) :
    (r.retried m).Only allowed :=
  m.retrying.only_retry (fun _ => only_attempt h) idle

theorem coordination_retried (m : Mutex) (r : LockRequest) :
    (r.retried m).Only fun c => c.isCoordination = true :=
  only_retried (by cases r <;> rfl) fun _ => Call.isCoordination_of_isIdle

end LockRequest

namespace Mutex

variable {ε α : Type}

def closed (name : String) :
    Outcome (Except MutexFault (Except ε α)) → Except MutexFault (Except ε α)
  | .returned result => result
  | .panicked message => .error (.aborted name (Script.abortReason message))

/-- What is done with a lock that was acquired or not. -/
def proceed (m : Mutex) (name : String) (token : Token) (callback : Callback ε α) :
    Except LockFault Unit → Script (Except MutexFault (Except ε α))
  | .error cause =>
      (m.giveUp name token).bind fun _ => .done (.error (.notAcquired name cause))
  | .ok () =>
      (m.calledSection name token callback).task.bind fun outcome => .done (closed name outcome)

theorem callExclusively_eq (m : Mutex) (key : String) (callback : Callback ε α) :
    m.callExclusively key callback =
      (Script.perform .newToken).bind fun token =>
        ((LockRequest.acquire (m.lockFor key) token m.expiry).retried m).bind
          (m.proceed (m.lockFor key) token callback) := by
  unfold callExclusively
  rw [Script.bind_eq]
  apply congrArg
  funext token
  rw [Script.bind_eq]
  apply congrArg
  funext result
  cases result with
  | error cause =>
      rfl
  | ok granted =>
      show Script.bind _ _ = Script.bind _ _
      apply congrArg
      funext result
      cases result <;> rfl

theorem exclusively_eq (m : Mutex) (key : String) (operation : Script (Except ε α)) :
    m.exclusively key operation =
      (Script.perform .newToken).bind fun token =>
        ((LockRequest.acquire (m.lockFor key) token m.expiry).retried m).bind
          (m.proceed (m.lockFor key) token (.done operation)) :=
  m.callExclusively_eq key (.done operation)

def opening (m : Mutex) (name : String) : Script (Token × Except LockFault Unit) :=
  (Script.perform .newToken).bind fun token =>
    ((LockRequest.acquire name token m.expiry).retried m).bind fun acquired =>
      .done (token, acquired)

theorem callExclusively_opening (m : Mutex) (key : String) (callback : Callback ε α) :
    m.callExclusively key callback = (m.opening (m.lockFor key)).bind fun opened =>
      m.proceed (m.lockFor key) opened.1 callback opened.2 := by
  rw [m.callExclusively_eq, opening, Script.bind_assoc]
  apply congrArg
  funext token
  rw [Script.bind_assoc]
  rfl

theorem calledSection_done (m : Mutex) (name : String) (token : Token)
    (operation : Script (Except ε α)) :
    m.calledSection name token (.done operation) = m.lockedSection name token operation := rfl

theorem lockedSection_eq (m : Mutex) (name : String) (token : Token)
    (operation : Script (Except ε α)) :
    m.lockedSection name token operation =
      operation.task.bind fun result =>
        ((LockRequest.release name token).retried m).bind fun released =>
          .done (settle name result released) := rfl

theorem coordination_opening (m : Mutex) (name : String) :
    (m.opening name).Only fun c => c.isCoordination = true := by
  refine Script.Only.bind (s := Script.perform .newToken) (.perform rfl) fun token => ?_
  exact (LockRequest.coordination_retried m _).bind fun _ => trivial

theorem coordination_giveUp (m : Mutex) (name : String) (token : Token) :
    (m.giveUp name token).Only fun c => c.isCoordination = true := by
  refine Script.Only.bind ?_ fun _ => trivial
  exact Script.Only.perform rfl

theorem only_exclusively {allowed : Call → Prop} (m : Mutex) (key : String)
    {operation : Script (Except ε α)} (h : operation.Only allowed)
    (coordination : ∀ c : Call, c.isCoordination = true → allowed c) :
    (m.exclusively key operation).Only allowed := by
  have retried (r : LockRequest) : (r.retried m).Only allowed :=
    (LockRequest.coordination_retried m r).mono coordination
  rw [exclusively_eq]
  refine (Script.Only.perform (coordination _ rfl)).bind fun token => ?_
  refine (retried _).bind fun result => ?_
  cases result with
  | error cause =>
      exact ((coordination_giveUp m _ token).mono coordination).bind fun _ => trivial
  | ok granted =>
      refine Script.Only.bind ?_ fun result => trivial
      rw [calledSection_done, lockedSection_eq]
      refine Script.Only.task ?_ (coordination _ rfl)
      refine (h.task (coordination _ rfl)).bind fun result => ?_
      exact (retried _).bind fun _ => trivial

end Mutex

namespace World

variable {L C R : Type} [LockStore L] [ClaimStore C] [RocketStore R]

theorem play_retried {m : Mutex} {r : LockRequest} {w : World L C R}
    (calm : LocksAnswer (r.retried m) w) :
    ∃ replies result, Tried m.patience r.refusal (max m.retries 1) replies result ∧
      (play (r.retried m) w).1 = .returned result ∧
      lockLog (moments (r.retried m) w) = replies.map (r.exchange m.patience) := by
  have atLeastOne : max m.retries 1 - 1 + 1 = max m.retries 1 := by omega
  have h := play_attempts m.retrying m.patience r (max m.retries 1 - 1) 1 w calm
  rw [atLeastOne] at h
  exact h

theorem rockets_coordination {α : Type} {s : Script α}
    (h : s.Only fun c => c.isCoordination = true) (w : World L C R) :
    (play s w).2.rockets = w.rockets :=
  rockets_play (h.mono fun _ => Call.isOnRockets_of_isCoordination) w

theorem claims_coordination {α : Type} {s : Script α}
    (h : s.Only fun c => c.isCoordination = true) (w : World L C R) :
    (play s w).2.claims = w.claims :=
  claims_play (h.mono fun _ => Call.isOnClaims_of_isCoordination) w

theorem play_newToken (w : World L C R) :
    play (Script.perform .newToken) w =
      (.returned (.fresh w.tokens), { w with tokens := w.tokens + 1 }) := rfl

theorem play_giveUp {m : Mutex} {name : String} {token : Token} {w : World L C R}
    (calm : LocksAnswer (m.giveUp name token) w) :
    (play (m.giveUp name token) w).1 = .returned () ∧
      lockLog (moments (m.giveUp name token) w) =
        [(LockRequest.release name token).exchange m.patience
          (w.replyTo (.release name token))] := by
  have asked : moments (m.giveUp name token) w = [⟨w, .release name token m.patience⟩] :=
    moments_perform_bind_done _ _ w
  have log : lockLog (moments (m.giveUp name token) w) =
      [(LockRequest.release name token).exchange m.patience
        (w.replyTo (.release name token))] := by
    rw [asked]
    rfl
  refine ⟨?_, log⟩
  have answered : (w.replyTo (.release name token)).isPanic = false := by
    apply calm ((LockRequest.release name token).exchange m.patience _)
    rw [log]
    exact List.mem_singleton_self _
  have played : play (m.giveUp name token) w = _ :=
    play_perform_bind_done (.release name token m.patience) (fun _ => ()) w
  rw [played]
  change ((w.replyTo (.release name token)).heard m.patience).map _ = _
  cases reply : w.replyTo (.release name token) with
  | answers after result =>
      simp only [LockReply.heard]
      split <;> rfl
  | silent =>
      rfl
  | panics message =>
      rw [reply] at answered
      cases answered

/-! ## The opening -/

/--
How a lock is asked for: what the store answers to the attempts, what the answers come to, and the
world that is left.
-/
structure Opened (m : Mutex) (name : String) (w : World L C R) (asked : List LockReply)
    (acquired : Except LockFault Unit) (next : World L C R) : Prop where
  tried : Tried m.patience .heldByAnother (max m.retries 1) asked acquired
  log : lockLog (moments (m.opening name) w) =
    asked.map ((LockRequest.acquire name (.fresh w.tokens) m.expiry).exchange m.patience)
  played : play (m.opening name) w = (.returned (.fresh w.tokens, acquired), next)

theorem exists_opened {m : Mutex} {name : String} {w : World L C R}
    (calm : LocksAnswer (m.opening name) w) :
    ∃ asked acquired next, Opened m name w asked acquired next := by
  have drawn := play_newToken w
  unfold Mutex.opening at calm
  have calm := calm.second drawn
  rcases play_retried calm.first with ⟨asked, acquired, tried, played, log⟩
  have ended : play ((LockRequest.acquire name (.fresh w.tokens) m.expiry).retried m)
      { w with tokens := w.tokens + 1 } = (.returned acquired, _) := Prod.ext played rfl
  refine ⟨asked, acquired,
    (play ((LockRequest.acquire name (.fresh w.tokens) m.expiry).retried m)
      { w with tokens := w.tokens + 1 }).2, tried, ?_, ?_⟩
  · rw [Mutex.opening, moments_bind_of_returned drawn, moments_bind_of_returned ended,
      moments_done, List.append_nil]
    exact log
  · rw [Mutex.opening, play_bind_of_returned drawn, play_bind_of_returned ended, play_done]

namespace Opened

variable {m : Mutex} {name : String} {w next : World L C R} {asked : List LockReply}
  {acquired : Except LockFault Unit}

theorem rockets (h : Opened m name w asked acquired next) : next.rockets = w.rockets := by
  have same := rockets_coordination (m.coordination_opening name) w
  rw [h.played] at same
  exact same

theorem claims (h : Opened m name w asked acquired next) : next.claims = w.claims := by
  have same := claims_coordination (m.coordination_opening name) w
  rw [h.played] at same
  exact same

end Opened

/-! ## Kept out -/

/--
The course of a callback that is kept out: the answers to the attempts, the cause that they come
to, and what the store answered when the lock was given up.
-/
structure KeptOut {ε α : Type} (m : Mutex) (key : String) (callback : Mutex.Callback ε α)
    (w : World L C R) (asked : List LockReply) (cause : LockFault) (cleared : LockReply) :
    Prop where
  tried : Tried m.patience .heldByAnother (max m.retries 1) asked (.error cause)
  only : ∀ x ∈ moments (m.callExclusively key callback) w, x.call.isCoordination = true
  /-- The callback has no part in it: any other one meets the same moments. -/
  uncalled : ∀ other : Mutex.Callback ε α,
    moments (m.callExclusively key other) w = moments (m.callExclusively key callback) w
  log : lockLog (moments (m.callExclusively key callback) w) =
    asked.map ((LockRequest.acquire (m.lockFor key) (.fresh w.tokens) m.expiry).exchange m.patience)
      ++ [(LockRequest.release (m.lockFor key) (.fresh w.tokens)).exchange m.patience cleared]
  result : (play (m.callExclusively key callback) w).1 =
    .returned (.error (.notAcquired (m.lockFor key) cause))
  rockets : (play (m.callExclusively key callback) w).2.rockets = w.rockets
  claims : (play (m.callExclusively key callback) w).2.claims = w.claims

/-! ## Let in -/

/-- The moments until something is done under a lock: all coordinate it, and the last of the
attempts was granted. -/
structure Granted (m : Mutex) (key : String) (w : World L C R) (asked : List LockReply)
    (before : List (Moment L C R)) (held : World L C R) : Prop where
  tried : Tried m.patience .heldByAnother (max m.retries 1) asked (.ok ())
  onlyBefore : ∀ x ∈ before, x.call.isCoordination = true
  logBefore : lockLog before =
    asked.map ((LockRequest.acquire (m.lockFor key) (.fresh w.tokens) m.expiry).exchange m.patience)
  heldRockets : held.rockets = w.rockets
  heldClaims : held.claims = w.claims

/--
A script `s` in which a procedure runs once, in the world `held`, and the lock is given back after
it: the answers to the attempts, what they come to, and what the script comes to.
-/
structure GivenBack {ε α : Type} (m : Mutex) (key : String) (operation : Script (Except ε α))
    (s : Script (Except MutexFault (Except ε α))) (w : World L C R) (given : List LockReply)
    (released : Except LockFault Unit) (before after : List (Moment L C R))
    (held : World L C R) : Prop where
  returning : Tried m.patience .notHeld (max m.retries 1) given released
  once : moments s w = before ++ moments operation held ++ after
  onlyAfter : ∀ x ∈ after, x.call.isCoordination = true
  logAfter : lockLog after =
    given.map ((LockRequest.release (m.lockFor key) (.fresh w.tokens)).exchange m.patience)
  returned : ∀ result, released = .ok () → (play operation held).1 = .returned result →
    (play s w).1 = .returned (.ok result)
  panicked : ∀ message, released = .ok () → (play operation held).1 = .panicked message →
    (play s w).1 = .returned (.error (.aborted (m.lockFor key) (Script.abortReason message)))
  unreleased : ∀ cause, released = .error cause →
    (play s w).1 = .returned (.error
      (.notReleased (m.lockFor key) (Mutex.succeeded (play operation held).1) cause))
  rockets : (play s w).2.rockets = (play operation held).2.rockets
  claims : (play s w).2.claims = (play operation held).2.claims

/-- The course of a procedure that is let in. -/
structure LetIn {ε α : Type} (m : Mutex) (key : String) (operation : Script (Except ε α))
    (w : World L C R) (asked given : List LockReply) (released : Except LockFault Unit)
    (before after : List (Moment L C R)) (held : World L C R) : Prop extends
    Granted m key w asked before held,
    GivenBack m key operation (m.exclusively key operation) w given released before after held

/--
The course of a callback that is let in, called once in the world `called`, and gives a procedure,
which runs as a task of its own.
-/
structure CalledIn {ε α : Type} (m : Mutex) (key : String) (callback : Mutex.Callback ε α)
    (operation : Script (Except ε α)) (w : World L C R) (asked given : List LockReply)
    (released : Except LockFault Unit) (before after : List (Moment L C R))
    (called held : World L C R) : Prop extends
    Granted m key w asked before called,
    GivenBack m key operation (m.callExclusively key callback) w given released
      (before ++ moments callback called ++ [⟨held, .pause 0⟩]) after held where
  gave : play callback called = (.returned operation, held)

/--
The course of a callback that is let in and panics when it is called: nothing follows the panic, so
the lock is not given back.
-/
structure LeftHeld {ε α : Type} (m : Mutex) (key : String) (callback : Mutex.Callback ε α)
    (message : String) (w : World L C R) (asked : List LockReply) (before : List (Moment L C R))
    (called left : World L C R) : Prop extends Granted m key w asked before called where
  broke : play callback called = (.panicked message, left)
  once : moments (m.callExclusively key callback) w =
    before ++ moments callback called ++ [⟨left, .pause 0⟩]
  played : play (m.callExclusively key callback) w =
    (.returned (.error (.aborted (m.lockFor key) (Script.abortReason message))), left)

/-! ## Each course -/

variable {ε α : Type} {m : Mutex} {operation : Script (Except ε α)}
  {callback : Mutex.Callback ε α}

/-- The procedure runs first, and then the lock is given back. -/
theorem lockedSection_course {name : String} {token : Token} {w : World L C R}
    (calm : LocksAnswer (m.lockedSection name token operation) w) :
    ∃ given released after,
      Tried m.patience .notHeld (max m.retries 1) given released ∧
      moments (m.lockedSection name token operation) w =
        ⟨w, .pause 0⟩ :: moments operation w ++ after ∧
      (∀ x ∈ after, x.call.isCoordination = true) ∧
      lockLog after = given.map ((LockRequest.release name token).exchange m.patience) ∧
      (play (m.lockedSection name token operation) w).1 =
        .returned (Mutex.settle name (play operation w).1 released) ∧
      (play (m.lockedSection name token operation) w).2.rockets =
        (play operation w).2.rockets ∧
      (play (m.lockedSection name token operation) w).2.claims =
        (play operation w).2.claims := by
  rw [Mutex.lockedSection_eq] at calm ⊢
  have ran := play_task operation w
  rcases play_retried (calm.second ran).first with ⟨given, released, tried, played, log⟩
  have gaveBack : play ((LockRequest.release name token).retried m) (play operation w).2 =
      (.returned released, _) := Prod.ext played rfl
  have coordination := LockRequest.coordination_retried m (.release name token)
  refine ⟨given, released,
    ⟨(play operation w).2, .pause 0⟩ ::
      moments ((LockRequest.release name token).retried m) (play operation w).2,
    tried, ?_, ?_, log, ?_, ?_, ?_⟩
  · rw [moments_bind_of_returned ran, moments_task, moments_bind_of_returned gaveBack,
      moments_done, List.append_nil, List.append_assoc]
    rfl
  · intro x mem
    rcases List.mem_cons.mp mem with first | later
    · rw [first]
      rfl
    · exact allowed_of_mem_moments coordination later
  · rw [play_bind_of_returned ran, play_bind_of_returned gaveBack, play_done]
  · rw [play_bind_of_returned ran, play_bind_of_returned gaveBack, play_done]
    exact rockets_coordination coordination _
  · rw [play_bind_of_returned ran, play_bind_of_returned gaveBack, play_done]
    exact claims_coordination coordination _

namespace Opened

variable {key : String} {w next held : World L C R} {asked : List LockReply}

theorem keptOut {cause : LockFault}
    (h : Opened m (m.lockFor key) w asked (.error cause) next)
    (calm : LocksAnswer (m.callExclusively key callback) w) :
    ∃ cleared, KeptOut m key callback w asked cause cleared := by
  have split (other : Mutex.Callback ε α) := m.callExclusively_opening key other
  rw [split] at calm
  rcases play_giveUp (calm.second h.played).first with ⟨answered, logged⟩
  have cleared : World.play (m.giveUp (m.lockFor key) (.fresh w.tokens)) next =
      (.returned (), _) := Prod.ext answered rfl
  have opening := m.coordination_opening (m.lockFor key)
  have leaving := Mutex.coordination_giveUp m (m.lockFor key) (.fresh w.tokens)
  have met (other : Mutex.Callback ε α) : World.moments (m.callExclusively key other) w =
      World.moments (m.opening (m.lockFor key)) w ++
        World.moments (m.giveUp (m.lockFor key) (.fresh w.tokens)) next := by
    rw [split, moments_bind_of_returned h.played, Mutex.proceed,
      moments_bind_of_returned cleared, moments_done, List.append_nil]
  have played : World.play (m.callExclusively key callback) w =
      (.returned (.error (.notAcquired (m.lockFor key) cause)),
        (World.play (m.giveUp (m.lockFor key) (.fresh w.tokens)) next).2) := by
    rw [split, play_bind_of_returned h.played, Mutex.proceed, play_bind_of_returned cleared,
      play_done]
  refine ⟨next.replyTo (.release (m.lockFor key) (.fresh w.tokens)), h.tried, ?_, ?_, ?_,
    congrArg Prod.fst played, ?_, ?_⟩
  · intro x mem
    rw [met] at mem
    rcases List.mem_append.mp mem with asking | clearing
    · exact allowed_of_mem_moments opening asking
    · exact allowed_of_mem_moments leaving clearing
  · intro other
    rw [met, met]
  · rw [met, lockLog_append, h.log, logged]
  · rw [played]
    exact (rockets_coordination leaving next).trans h.rockets
  · rw [played]
    exact (claims_coordination leaving next).trans h.claims

theorem granted (h : Opened m (m.lockFor key) w asked (.ok ()) next) :
    Granted m key w asked
      (World.moments (m.opening (m.lockFor key)) w ++ [⟨next, .pause 0⟩]) next where
  tried := h.tried
  onlyBefore x mem := by
    rcases List.mem_append.mp mem with asking | resting
    · exact allowed_of_mem_moments (m.coordination_opening (m.lockFor key)) asking
    · rw [List.mem_singleton.mp resting]
      rfl
  logBefore := by
    rw [lockLog_append, h.log]
    exact List.append_nil _
  heldRockets := h.rockets
  heldClaims := h.claims

theorem moments_called (h : Opened m (m.lockFor key) w asked (.ok ()) next)
    (callback : Mutex.Callback ε α) :
    World.moments (m.callExclusively key callback) w =
      World.moments (m.opening (m.lockFor key)) w ++ [⟨next, .pause 0⟩] ++
        World.moments (m.calledSection (m.lockFor key) (.fresh w.tokens) callback) next ++
        [⟨(World.play (m.calledSection (m.lockFor key) (.fresh w.tokens) callback) next).2,
          .pause 0⟩] := by
  rw [m.callExclusively_opening, moments_bind_of_returned h.played, Mutex.proceed,
    moments_bind_of_returned (play_task _ next), moments_task, moments_done]
  simp only [List.append_assoc, List.cons_append, List.nil_append, List.append_nil]

theorem play_called (h : Opened m (m.lockFor key) w asked (.ok ()) next)
    (callback : Mutex.Callback ε α) :
    World.play (m.callExclusively key callback) w =
      (.returned (Mutex.closed (m.lockFor key)
        (World.play (m.calledSection (m.lockFor key) (.fresh w.tokens) callback) next).1),
        (World.play (m.calledSection (m.lockFor key) (.fresh w.tokens) callback) next).2) := by
  rw [m.callExclusively_opening, play_bind_of_returned h.played, Mutex.proceed,
    play_bind_of_returned (play_task _ next), play_done]

theorem calledIn (h : Opened m (m.lockFor key) w asked (.ok ()) next)
    (calm : LocksAnswer (m.callExclusively key callback) w)
    (gave : World.play callback next = (.returned operation, held)) :
    ∃ given released before after,
      CalledIn m key callback operation w asked given released before after next held := by
  rw [m.callExclusively_opening] at calm
  have calm := ((calm.second h.played).first.of_task).second gave
  obtain ⟨given, released, after, returning, once, only, logged, settled, rockets, claims⟩ :=
    lockedSection_course calm
  have inside : World.play (m.calledSection (m.lockFor key) (.fresh w.tokens) callback) next =
      World.play (m.lockedSection (m.lockFor key) (.fresh w.tokens) operation) held :=
    play_bind_of_returned gave
  have met : World.moments (m.calledSection (m.lockFor key) (.fresh w.tokens) callback) next =
      World.moments callback next ++
        World.moments (m.lockedSection (m.lockFor key) (.fresh w.tokens) operation) held :=
    moments_bind_of_returned gave
  have played := h.play_called callback
  rw [inside, settled] at played
  refine ⟨given, released, _, after ++ [⟨(World.play (m.lockedSection (m.lockFor key)
    (.fresh w.tokens) operation) held).2, .pause 0⟩], h.granted,
    ⟨returning, ?_, ?_, ?_, ?_, ?_, ?_, ?_, ?_⟩, gave⟩
  · rw [h.moments_called callback, met, once, inside]
    simp only [List.append_assoc, List.cons_append, List.nil_append]
  · intro x mem
    rcases List.mem_append.mp mem with leaving | resting
    · exact only x leaving
    · rw [List.mem_singleton.mp resting]
      rfl
  · rw [lockLog_append, logged]
    exact List.append_nil _
  · intro result gaveBack ran
    rw [played, gaveBack, ran]
    rfl
  · intro message gaveBack ran
    rw [played, gaveBack, ran]
    rfl
  · intro cause kept
    rw [played, kept]
    rfl
  · rw [played]
    exact rockets
  · rw [played]
    exact claims

theorem leftHeld {message : String} (h : Opened m (m.lockFor key) w asked (.ok ()) next)
    (broke : World.play callback next = (.panicked message, held)) :
    ∃ before, LeftHeld m key callback message w asked before next held := by
  have inside : World.play (m.calledSection (m.lockFor key) (.fresh w.tokens) callback) next =
      (.panicked message, held) := play_bind_of_panicked broke
  have met : World.moments (m.calledSection (m.lockFor key) (.fresh w.tokens) callback) next =
      World.moments callback next := by
    rw [Mutex.calledSection, Script.bind_eq, moments_bind, broke, List.append_nil]
  refine ⟨_, h.granted, broke, ?_, ?_⟩
  · rw [h.moments_called callback, met, inside]
  · rw [h.play_called callback, inside]
    rfl

end Opened

/-! ## Every course -/

theorem CalledIn.letIn {key : String} {w called held : World L C R} {other : Script (Except ε α)}
    {asked given : List LockReply} {released : Except LockFault Unit}
    {before after : List (Moment L C R)}
    (h : CalledIn m key (.done operation) other w asked given released before after called held) :
    ∃ earlier, LetIn m key operation w asked given released earlier after called := by
  have same := h.gave
  rw [play_done] at same
  cases same
  refine ⟨_, ⟨h.tried, ?_, ?_, h.heldRockets, h.heldClaims⟩, h.toGivenBack⟩
  · intro x mem
    rw [moments_done, List.append_nil] at mem
    rcases List.mem_append.mp mem with asking | resting
    · exact h.onlyBefore x asking
    · rw [List.mem_singleton.mp resting]
      rfl
  · rw [moments_done, List.append_nil, lockLog_append, h.logBefore]
    exact List.append_nil _

theorem exists_opened_of_call {key : String} {w : World L C R}
    (calm : LocksAnswer (m.callExclusively key callback) w) :
    ∃ asked acquired next, Opened m (m.lockFor key) w asked acquired next := by
  rw [m.callExclusively_opening] at calm
  exact exists_opened calm.first

/--
A procedure under a lock is kept out or let in, whatever the lock store answers and whatever the
procedure comes to.
-/
theorem exclusively_kept_out_or_let_in (m : Mutex) (key : String)
    (operation : Script (Except ε α)) (w : World L C R)
    (calm : LocksAnswer (m.exclusively key operation) w) :
    (∃ asked cause cleared, KeptOut m key (.done operation) w asked cause cleared) ∨
      ∃ asked given released before after held,
        LetIn m key operation w asked given released before after held := by
  have calm : LocksAnswer (m.callExclusively key (.done operation)) w := calm
  rcases exists_opened_of_call calm with ⟨asked, acquired, next, opened⟩
  cases acquired with
  | error cause =>
      rcases opened.keptOut calm with ⟨cleared, keptOut⟩
      exact .inl ⟨asked, cause, cleared, keptOut⟩
  | ok granted =>
      rcases opened.calledIn calm (play_done operation next) with
        ⟨given, released, before, after, calledIn⟩
      rcases calledIn.letIn with ⟨earlier, letIn⟩
      exact .inr ⟨asked, given, released, earlier, after, next, letIn⟩

/--
A callback under a lock is kept out, or let in and called once, whatever the lock store answers and
whatever the callback does.  The lock is given back after what the callback gave, but not where the
call itself panics.
-/
theorem kept_out_or_called_in_or_left_held (m : Mutex) (key : String)
    (callback : Mutex.Callback ε α) (w : World L C R)
    (calm : LocksAnswer (m.callExclusively key callback) w) :
    (∃ asked cause cleared, KeptOut m key callback w asked cause cleared) ∨
      (∃ operation asked given released before after called held,
        CalledIn m key callback operation w asked given released before after called held) ∨
      ∃ message asked before called left,
        LeftHeld m key callback message w asked before called left := by
  rcases exists_opened_of_call calm with ⟨asked, acquired, next, opened⟩
  cases acquired with
  | error cause =>
      rcases opened.keptOut calm with ⟨cleared, keptOut⟩
      exact .inl ⟨asked, cause, cleared, keptOut⟩
  | ok granted =>
      cases called : play callback next with
      | mk outcome held =>
          cases outcome with
          | returned operation =>
              rcases opened.calledIn calm called with ⟨given, released, before, after, calledIn⟩
              exact .inr (.inl ⟨operation, asked, given, released, before, after, next, held,
                calledIn⟩)
          | panicked message =>
              rcases opened.leftHeld called with ⟨before, leftHeld⟩
              exact .inr (.inr ⟨message, asked, before, next, held, leftHeld⟩)

def fault? : Outcome (Except ε α) → Option ε
  | .returned (.error fault) => some fault
  | _ => none

theorem eq_of_fault? {outcome : Outcome (Except ε α)} {fault : ε}
    (h : fault? outcome = some fault) : outcome = .returned (.error fault) := by
  unfold fault? at h
  split at h
  · cases h
    rfl
  · cases h

def hesitant : World AnyLocks ClaimRecords Fleet :=
  { locks := .told { acquires := [.no, .hangs, .yes], releases := [.fails "busy", .yes] }
    claims := .start .epoch
    rockets := .empty
    clock := .standing .epoch }

def moving : Mutex.Callback Unit Nat :=
  (Script.perform (.moveClock 5)).bind fun _ =>
    .done ((Script.perform (.moveClock 5)).bind fun _ => .done (.ok 7))

theorem called_in_at_third_attempt :
    LocksAnswer (Mutex.callExclusively { retries := 3 } "rocket:1" moving) hesitant ∧
      ∃ operation asked given released before after called held,
        CalledIn { retries := 3 } "rocket:1" moving operation hesitant asked given released before
          after called held := by
  have calm : LocksAnswer (Mutex.callExclusively { retries := 3 } "rocket:1" moving) hesitant := by
    unfold LocksAnswer
    decide +kernel
  have done : Mutex.succeeded
      (play (Mutex.callExclusively { retries := 3 } "rocket:1" moving) hesitant).1 = true := by
    decide +kernel
  refine ⟨calm, ?_⟩
  rcases kept_out_or_called_in_or_left_held { retries := 3 } "rocket:1" moving hesitant calm with
    ⟨asked, cause, cleared, keptOut⟩ | calledIn | ⟨message, asked, before, called, left, leftHeld⟩
  · rw [keptOut.result] at done
    cases done
  · exact calledIn
  · rw [leftHeld.played] at done
    cases done

def willing : World AnyLocks ClaimRecords Fleet :=
  { hesitant with locks := .told {} }

/-- Where the call of a callback panics, the lock that was granted is never given back. -/
theorem unreturned_where_call_panics :
    LocksAnswer (Mutex.callExclusively {} "k" (.panicked "boom" : Mutex.Callback Unit Nat))
        willing ∧
      (lockLog (moments
          (Mutex.callExclusively {} "k" (.panicked "boom" : Mutex.Callback Unit Nat))
          willing)).map Prod.fst =
        [.acquire "distributed-sync-mutex:k" (.fresh 0) (.ofSeconds 30) (.ofMilliseconds 1500)] ∧
      (play (Mutex.callExclusively {} "k" (.panicked "boom" : Mutex.Callback Unit Nat)) willing).1 =
        .returned (.error (.aborted "distributed-sync-mutex:k"
          "task panicked with message \"boom\"")) := by
  refine ⟨?_, ?_, eq_of_fault? (by decide +kernel)⟩
  · unfold LocksAnswer
    decide +kernel
  · decide +kernel

end World

end MissionControl
