import MissionControl.Proofs.Lock.Protocol

/-!
# Breakdowns of a lock store

A call on a lock store may panic.  While a lock is asked for or given up, the panic unwinds out of
everything that was to run under the lock, and the procedure has not begun.  While the lock is given
back, the panic ends the locked section, whatever the procedure came to.  The main statement says
when an error tells of a success: where the procedure ran and succeeded, unless giving the lock
back broke down.
-/

namespace MissionControl
namespace World

variable {L C R ε α β : Type} [LockStore L]

/-- No call on the lock store panics at some moments. -/
def Calm (moments : List (Moment L C R)) : Prop :=
  ∀ exchange ∈ lockLog moments, exchange.2.isPanic = false

theorem calm_nil : Calm ([] : List (Moment L C R)) := by
  intro exchange mem
  cases mem

theorem calm_append {earlier later : List (Moment L C R)} :
    Calm (earlier ++ later) ↔ Calm earlier ∧ Calm later := by
  unfold Calm
  rw [lockLog_append]
  exact List.forall_mem_append

theorem calm_of_isOnLocks {moments : List (Moment L C R)}
    (h : ∀ x ∈ moments, x.call.isOnLocks = false) : Calm moments := by
  have none : lockLog moments = [] :=
    List.filterMap_eq_nil_iff.mpr fun x mem => Moment.lockExchange?_eq_none (h x mem)
  intro exchange mem
  rw [none] at mem
  cases mem

theorem calm_singleton {w : World L C R} {c : Call} (h : c.isOnLocks = false) :
    Calm [(⟨w, c⟩ : Moment L C R)] := by
  apply calm_of_isOnLocks
  intro x mem
  rw [List.mem_singleton.mp mem]
  exact h

variable [ClaimStore C] [RocketStore R] {m : Mutex} {key : String}

/-! ## Attempts that return -/

theorem calm_attempt {patience : Duration} {r : LockRequest} {w w' : World L C R}
    {result : Except LockFault Unit} (h : play (r.attempt patience) w = (.returned result, w')) :
    Calm (moments (r.attempt patience) w) := by
  have answered : (w.replyTo r).isPanic = false := by
    have heard : ((w.replyTo r).heard patience).map (Mutex.granted r.refusal) =
        .returned result := by
      cases r with
      | acquire name token expiry =>
          exact (congrArg Prod.fst (play_perform_bind_done _ _ w)).symm.trans (congrArg Prod.fst h)
      | release name token =>
          exact (congrArg Prod.fst (play_perform_bind_done _ _ w)).symm.trans (congrArg Prod.fst h)
    cases reply : w.replyTo r with
    | answers after answer =>
        rfl
    | silent =>
        rfl
    | panics message =>
        rw [reply] at heard
        cases heard
  intro exchange mem
  rw [lockLog_attempt, List.mem_singleton] at mem
  rw [mem]
  exact answered

theorem calm_pause (p : RetryPlan) (w : World L C R) : Calm (moments p.pause w) :=
  calm_of_isOnLocks fun _ mem =>
    allowed_of_mem_moments (p.only_pause fun _ idle => Call.isOnLocks_of_isIdle idle) mem

theorem calm_attemptFrom (p : RetryPlan) (patience : Duration) (r : LockRequest)
    (left number : Nat) {w w' : World L C R} {result : Except LockFault Unit}
    (h : play (p.attemptFrom (fun _ => r.attempt patience) left number) w =
      (.returned result, w')) :
    Calm (moments (p.attemptFrom (fun _ => r.attempt patience) left number) w) := by
  induction left generalizing number w with
  | zero =>
      exact calm_attempt h
  | succ left ih =>
      rw [RetryPlan.attemptFrom_succ] at h ⊢
      cases first : play (r.attempt patience) w with
      | mk outcome next =>
          cases outcome with
          | panicked message =>
              rw [play_bind_of_panicked first] at h
              cases h
          | returned answer =>
              rw [play_bind_of_returned first] at h
              rw [moments_bind_of_returned first, calm_append]
              refine ⟨calm_attempt first, ?_⟩
              cases answer with
              | ok granted =>
                  exact calm_nil
              | error cause =>
                  -- Pausing cannot panic, so the attempts that are left decide.
                  rcases play_pause p next with ⟨rested, paused⟩
                  rw [play_bind_of_returned paused] at h
                  rw [moments_bind_of_returned paused, calm_append]
                  exact ⟨calm_pause p next, ih (number + 1) h⟩

/-- A request that is retried returns exactly where no call on the store panics. -/
theorem calm_retried_iff {r : LockRequest} {w : World L C R} :
    Calm (moments (r.retried m) w) ↔
      ∃ result, (play (r.retried m) w).1 = .returned result := by
  constructor
  · intro calm
    rcases play_retried calm with ⟨_, result, _, played, _⟩
    exact ⟨result, played⟩
  · rintro ⟨result, played⟩
    exact calm_attemptFrom _ _ _ _ _ (Prod.ext played rfl)

/-! ## Whether the procedure began -/

/--
A procedure under a lock that does not begin: any other one would meet the same moments and come to
the same, and all that is called is called to coordinate it.
-/
structure NotBegun (m : Mutex) (key : String) (operation : Script (Except ε α))
    (w : World L C R) : Prop where
  unrun : ∀ other : Script (Except ε α),
    moments (m.exclusively key other) w = moments (m.exclusively key operation) w ∧
      play (m.exclusively key other) w = play (m.exclusively key operation) w
  only : ∀ x ∈ moments (m.exclusively key operation) w, x.call.isCoordination = true
  rockets : (play (m.exclusively key operation) w).2.rockets = w.rockets
  claims : (play (m.exclusively key operation) w).2.claims = w.claims

/--
A procedure under a lock that begins, once, in the world `held`.  What is called before it would be
called before any other one too.
-/
structure Begun (m : Mutex) (key : String) (operation : Script (Except ε α)) (w : World L C R)
    (before after : List (Moment L C R)) (held : World L C R) : Prop where
  once : moments (m.exclusively key operation) w = before ++ moments operation held ++ after
  prior : ∀ other : Script (Except ε α), ∃ later,
    moments (m.exclusively key other) w = before ++ moments other held ++ later
  onlyBefore : ∀ x ∈ before, x.call.isCoordination = true
  onlyAfter : ∀ x ∈ after, x.call.isCoordination = true
  calmBefore : Calm before
  heldRockets : held.rockets = w.rockets
  heldClaims : held.claims = w.claims
  rockets : (play (m.exclusively key operation) w).2.rockets = (play operation held).2.rockets
  claims : (play (m.exclusively key operation) w).2.claims = (play operation held).2.claims

def probe (c : Call) : Script (Except ε α) := .call c fun _ => .panicked ""

theorem moments_probe (c : Call) (w : World L C R) :
    moments (probe c : Script (Except ε α)) w = [⟨w, c⟩] := rfl

omit [LockStore L] [ClaimStore C] [RocketStore R] in
theorem takeWhile_isCoordination {before : List (Moment L C R)}
    (only : ∀ x ∈ before, x.call.isCoordination = true) (held : World L C R)
    (later : List (Moment L C R)) :
    (before ++ [(⟨held, .listRockets default⟩ : Moment L C R)] ++ later).takeWhile
      (fun x => x.call.isCoordination) = before := by
  rw [List.append_assoc, List.takeWhile_append_of_pos only]
  exact List.append_nil before

variable {operation : Script (Except ε α)} {w held : World L C R}
  {before after : List (Moment L C R)}

theorem Begun.not_notBegun (h : Begun m key operation w before after held) :
    ¬NotBegun m key operation w := by
  intro unbegun
  -- A probe in the place of the procedure would make a call that only a procedure can make.
  rcases h.prior (probe (.listRockets default)) with ⟨later, split⟩
  have mem : (⟨held, .listRockets default⟩ : Moment L C R) ∈
      moments (m.exclusively key operation) w := by
    rw [← (unbegun.unrun (probe (.listRockets default))).1, split, moments_probe]
    simp
  have coordinates := unbegun.only _ mem
  cases coordinates

theorem Begun.unique {before' after' : List (Moment L C R)} {held' : World L C R}
    (h : Begun m key operation w before after held)
    (h' : Begun m key operation w before' after' held') :
    before = before' ∧ held = held' ∧ after = after' := by
  -- The call of a probe marks the end of what comes before the procedure.
  rcases h.prior (probe (.listRockets default)) with ⟨later, split⟩
  rcases h'.prior (probe (.listRockets default)) with ⟨later', split'⟩
  rw [moments_probe] at split split'
  have same : before = before' := by
    rw [← takeWhile_isCoordination h.onlyBefore held later, ← split, split',
      takeWhile_isCoordination h'.onlyBefore]
  subst same
  rw [split, List.append_assoc, List.append_assoc] at split'
  have rest := List.append_cancel_left split'
  have here : held = held' := congrArg Moment.world (List.cons.inj rest).1
  subst here
  have whole := h'.once
  rw [h.once] at whole
  exact ⟨rfl, rfl, List.append_cancel_left whole⟩

/-! ## Every ending -/

/-- What a procedure under a lock comes to, whatever the lock store does. -/
inductive Ended (m : Mutex) (key : String) (operation : Script (Except ε α))
    (w : World L C R) : Outcome (Except MutexFault (Except ε α)) → Prop where
  /-- The store breaks down while the lock is asked for or given up. -/
  | broken {message : String} : NotBegun m key operation w →
      ¬Calm (moments (m.exclusively key operation) w) →
      Ended m key operation w (.panicked message)
  | keptOut {cause : LockFault} : NotBegun m key operation w →
      Calm (moments (m.exclusively key operation) w) →
      Ended m key operation w (.returned (.error (.notAcquired (m.lockFor key) cause)))
  | settled {before after : List (Moment L C R)} {held : World L C R}
      {released : Except LockFault Unit} : Begun m key operation w before after held →
      Calm after →
      Ended m key operation w
        (.returned (Mutex.settle (m.lockFor key) (play operation held).1 released))
  /-- The store breaks down while the lock is given back. -/
  | snapped {before after : List (Moment L C R)} {held : World L C R} {message : String} :
      Begun m key operation w before after held → ¬Calm after →
      Ended m key operation w
        (.returned (.error (.aborted (m.lockFor key) (Script.abortReason message))))

/-! ## The opening -/

end World

namespace Mutex

theorem exclusively_opening {ε α : Type} (m : Mutex) (key : String)
    (operation : Script (Except ε α)) :
    m.exclusively key operation = (m.opening (m.lockFor key)).bind fun opened =>
      m.proceed (m.lockFor key) opened.1 (.done operation) opened.2 :=
  m.callExclusively_opening key (.done operation)

theorem proceed_ok {ε α : Type} (m : Mutex) (name : String) (token : Token)
    (operation : Script (Except ε α)) :
    m.proceed name token (.done operation) (.ok ()) =
      (m.lockedSection name token operation).task.bind fun outcome =>
        .done (closed name outcome) := rfl

theorem coordination_proceed_error {ε α : Type} (m : Mutex) (name : String) (token : Token)
    (operation : Script (Except ε α)) (cause : LockFault) :
    (m.proceed name token (.done operation) (.error cause)).Only fun c => c.isCoordination = true :=
  (m.coordination_giveUp name token).bind fun _ => trivial

end Mutex

namespace World

variable {L C R ε α : Type} [LockStore L] [ClaimStore C] [RocketStore R] {m : Mutex}
  {key name : String} {token : Token} {operation : Script (Except ε α)} {w held : World L C R}

theorem calm_opening_iff :
    Calm (moments (m.opening name) w) ↔
      ∃ opened, (play (m.opening name) w).1 = .returned opened := by
  have drawn := play_newToken w
  have quiet : Calm (moments (Script.perform .newToken) w) := calm_singleton rfl
  unfold Mutex.opening
  rw [moments_bind_of_returned drawn, play_bind_of_returned drawn, calm_append,
    and_iff_right quiet]
  cases asked : play ((LockRequest.acquire name (.fresh w.tokens) m.expiry).retried m)
      { w with tokens := w.tokens + 1 } with
  | mk outcome next =>
      rw [moments_bind, asked, play_bind, asked, calm_append, calm_retried_iff, asked]
      cases outcome with
      | panicked message =>
          simp
      | returned acquired =>
          simp [play_done, moments_done, calm_nil]

theorem calm_giveUp_iff :
    Calm (moments (m.giveUp name token) w) ↔
      (play (m.giveUp name token) w).1 = .returned () := by
  constructor
  · intro calm
    exact (play_giveUp calm).1
  · intro returned
    have played : (play (m.giveUp name token) w).1 =
        ((w.replyTo (.release name token)).heard m.patience).map fun _ => () :=
      congrArg Prod.fst (play_perform_bind_done (.release name token m.patience) (fun _ => ()) w)
    rw [played] at returned
    intro exchange mem
    have asked : moments (m.giveUp name token) w = [⟨w, .release name token m.patience⟩] :=
      moments_perform_bind_done _ _ w
    rw [asked] at mem
    have here : exchange = (_, w.replyTo (.release name token)) := List.mem_singleton.mp mem
    rw [here]
    cases reply : w.replyTo (.release name token) with
    | panics message =>
        rw [reply] at returned
        cases returned
    | _ =>
        rfl

theorem proceed_error_ended (m : Mutex) (name : String) (token : Token)
    (operation : Script (Except ε α)) (cause : LockFault) (w : World L C R) :
    ((∃ message, (play (m.proceed name token (.done operation) (.error cause)) w).1 =
          .panicked message) ∧
        ¬Calm (moments (m.proceed name token (.done operation) (.error cause)) w)) ∨
      ((play (m.proceed name token (.done operation) (.error cause)) w).1 =
          .returned (.error (.notAcquired name cause)) ∧
        Calm (moments (m.proceed name token (.done operation) (.error cause)) w)) := by
  have calm : Calm (moments (m.giveUp name token) w) ↔
      (play (m.giveUp name token) w).1 = .returned () := calm_giveUp_iff
  unfold Mutex.proceed
  cases cleared : play (m.giveUp name token) w with
  | mk outcome next =>
      rw [cleared] at calm
      cases outcome with
      | panicked message =>
          rw [play_bind_of_panicked cleared, moments_bind, cleared, List.append_nil, calm]
          refine .inl ⟨⟨message, rfl⟩, ?_⟩
          intro returned
          cases returned
      | returned value =>
          rw [play_bind_of_returned cleared, moments_bind_of_returned cleared, moments_done,
            List.append_nil]
          exact .inr ⟨rfl, calm.mpr rfl⟩

/-! ## A procedure that does not begin -/

theorem NotBegun.of_forall {asked : List (Moment L C R)}
    {outcome : Outcome (Except MutexFault (Except ε α))} {w' : World L C R}
    (each : ∀ other : Script (Except ε α), moments (m.exclusively key other) w = asked ∧
      play (m.exclusively key other) w = (outcome, w'))
    (only : ∀ x ∈ asked, x.call.isCoordination = true)
    (rockets : w'.rockets = w.rockets) (claims : w'.claims = w.claims) :
    NotBegun m key operation w := by
  rcases each operation with ⟨met, played⟩
  refine ⟨fun other => ?_, ?_, ?_, ?_⟩
  · rcases each other with ⟨metToo, playedToo⟩
    rw [met, metToo, played, playedToo]
    exact ⟨rfl, rfl⟩
  · rw [met]
    exact only
  · rw [played]
    exact rockets
  · rw [played]
    exact claims

theorem ended_of_panicked {message : String} {w' : World L C R}
    (opened : play (m.opening (m.lockFor key)) w = (.panicked message, w')) :
    Ended m key operation w (play (m.exclusively key operation) w).1 := by
  have coordination := m.coordination_opening (m.lockFor key)
  have each (other : Script (Except ε α)) :
      moments (m.exclusively key other) w = moments (m.opening (m.lockFor key)) w ∧
        play (m.exclusively key other) w = (.panicked message, w') := by
    rw [m.exclusively_opening, moments_bind, opened, play_bind_of_panicked opened]
    exact ⟨List.append_nil _, rfl⟩
  have rockets := rockets_coordination coordination w
  have claims := claims_coordination coordination w
  rw [opened] at rockets claims
  rw [(each operation).2]
  refine .broken (.of_forall each (fun x => allowed_of_mem_moments coordination) rockets claims) ?_
  rw [(each operation).1, calm_opening_iff, opened]
  rintro ⟨result, returned⟩
  cases returned

theorem ended_of_refused {cause : LockFault} {next : World L C R}
    (opened : play (m.opening (m.lockFor key)) w = (.returned (token, .error cause), next)) :
    Ended m key operation w (play (m.exclusively key operation) w).1 := by
  have opening := m.coordination_opening (m.lockFor key)
  have leaving := m.coordination_proceed_error (m.lockFor key) token operation cause
  -- Giving up does not depend on the procedure, so one script stands for every other.
  have each (other : Script (Except ε α)) :
      moments (m.exclusively key other) w = moments (m.opening (m.lockFor key)) w ++
          moments (m.proceed (m.lockFor key) token (.done operation) (.error cause)) next ∧
        play (m.exclusively key other) w =
          play (m.proceed (m.lockFor key) token (.done operation) (.error cause)) next := by
    rw [m.exclusively_opening, moments_bind_of_returned opened, play_bind_of_returned opened]
    constructor <;> rfl
  have calm : Calm (moments (m.exclusively key operation) w) ↔
      Calm (moments (m.proceed (m.lockFor key) token (.done operation) (.error cause)) next) := by
    rw [(each operation).1, calm_append]
    exact and_iff_right (calm_opening_iff.mpr ⟨_, congrArg Prod.fst opened⟩)
  have unbegun : NotBegun m key operation w := by
    have rockets := rockets_coordination opening w
    have claims := claims_coordination opening w
    rw [opened] at rockets claims
    refine .of_forall each ?_ ((rockets_coordination leaving next).trans rockets)
      ((claims_coordination leaving next).trans claims)
    intro x mem
    rcases List.mem_append.mp mem with before | after
    · exact allowed_of_mem_moments opening before
    · exact allowed_of_mem_moments leaving after
  rw [(each operation).2]
  rcases proceed_error_ended m (m.lockFor key) token operation cause next with
    ⟨⟨message, panicked⟩, panics⟩ | ⟨returned, quiet⟩
  · rw [panicked]
    exact .broken unbegun (mt calm.mp panics)
  · rw [returned]
    exact .keptOut unbegun (calm.mpr quiet)

/-! ## A procedure that begins -/

theorem moments_lockedSection (operation : Script (Except ε α)) (w : World L C R) :
    moments (m.lockedSection name token operation) w =
      ⟨w, .pause 0⟩ :: moments operation w ++ (⟨(play operation w).2, .pause 0⟩ ::
        moments ((LockRequest.release name token).retried m) (play operation w).2) := by
  rw [Mutex.lockedSection_eq, moments_bind_of_returned (play_task operation w), moments_task,
    moments_bind]
  cases play ((LockRequest.release name token).retried m) (play operation w).2 with
  | mk outcome w' =>
      cases outcome <;> simp [moments_done]

theorem play_lockedSection (operation : Script (Except ε α)) (w : World L C R) :
    play (m.lockedSection name token operation) w =
      ((play ((LockRequest.release name token).retried m) (play operation w).2).1.map
          (Mutex.settle name (play operation w).1),
        (play ((LockRequest.release name token).retried m) (play operation w).2).2) := by
  rw [Mutex.lockedSection_eq, play_bind_of_returned (play_task operation w), play_bind]
  cases play ((LockRequest.release name token).retried m) (play operation w).2 with
  | mk outcome w' =>
      cases outcome <;> rfl

theorem moments_granted (opened : play (m.opening (m.lockFor key)) w =
      (.returned (token, .ok ()), held)) (operation : Script (Except ε α)) :
    moments (m.exclusively key operation) w =
      (moments (m.opening (m.lockFor key)) w ++ [⟨held, .pause 0⟩, ⟨held, .pause 0⟩]) ++
        moments operation held ++
        (⟨(play operation held).2, .pause 0⟩ ::
          moments ((LockRequest.release (m.lockFor key) token).retried m)
            (play operation held).2 ++
          [⟨(play (m.lockedSection (m.lockFor key) token operation) held).2, .pause 0⟩]) := by
  rw [m.exclusively_opening, moments_bind_of_returned opened, m.proceed_ok,
    moments_bind_of_returned (play_task _ held), moments_task, moments_lockedSection,
    moments_done]
  simp only [List.append_assoc, List.cons_append, List.nil_append, List.append_nil]

theorem play_granted (opened : play (m.opening (m.lockFor key)) w =
      (.returned (token, .ok ()), held)) (operation : Script (Except ε α)) :
    play (m.exclusively key operation) w =
      (.returned (Mutex.closed (m.lockFor key)
        (play (m.lockedSection (m.lockFor key) token operation) held).1),
        (play (m.lockedSection (m.lockFor key) token operation) held).2) := by
  rw [m.exclusively_opening, play_bind_of_returned opened, m.proceed_ok,
    play_bind_of_returned (play_task _ held), play_done]

theorem begun_of_granted (opened : play (m.opening (m.lockFor key)) w =
      (.returned (token, .ok ()), held)) (operation : Script (Except ε α)) :
    Begun m key operation w
      (moments (m.opening (m.lockFor key)) w ++ [⟨held, .pause 0⟩, ⟨held, .pause 0⟩])
      (⟨(play operation held).2, .pause 0⟩ ::
        moments ((LockRequest.release (m.lockFor key) token).retried m) (play operation held).2 ++
        [⟨(play (m.lockedSection (m.lockFor key) token operation) held).2, .pause 0⟩]) held := by
  have opening := m.coordination_opening (m.lockFor key)
  have releasing := LockRequest.coordination_retried m (.release (m.lockFor key) token)
  have rockets := rockets_coordination opening w
  have claims := claims_coordination opening w
  rw [opened] at rockets claims
  refine ⟨moments_granted opened operation, fun other => ⟨_, moments_granted opened other⟩,
    ?_, ?_, ?_, rockets, claims, ?_, ?_⟩
  · intro x mem
    rcases List.mem_append.mp mem with asking | resting
    · exact allowed_of_mem_moments opening asking
    · simp only [List.mem_cons, List.not_mem_nil, or_false, or_self] at resting
      rw [resting]
      rfl
  · intro x mem
    rcases List.mem_append.mp mem with leaving | resting
    · rcases List.mem_cons.mp leaving with first | later
      · rw [first]
        rfl
      · exact allowed_of_mem_moments releasing later
    · rw [List.mem_singleton.mp resting]
      rfl
  · rw [calm_append]
    refine ⟨calm_opening_iff.mpr ⟨_, congrArg Prod.fst opened⟩, calm_of_isOnLocks ?_⟩
    intro x mem
    simp only [List.mem_cons, List.not_mem_nil, or_false, or_self] at mem
    rw [mem]
    rfl
  · rw [play_granted opened, play_lockedSection]
    exact rockets_coordination releasing _
  · rw [play_granted opened, play_lockedSection]
    exact claims_coordination releasing _

theorem ended_of_granted (opened : play (m.opening (m.lockFor key)) w =
      (.returned (token, .ok ()), held)) :
    Ended m key operation w (play (m.exclusively key operation) w).1 := by
  have begun := begun_of_granted opened operation
  have resting (v : World L C R) : Calm [(⟨v, .pause 0⟩ : Moment L C R)] := calm_singleton rfl
  have calm : Calm (⟨(play operation held).2, .pause 0⟩ ::
      moments ((LockRequest.release (m.lockFor key) token).retried m) (play operation held).2 ++
      [⟨(play (m.lockedSection (m.lockFor key) token operation) held).2, .pause 0⟩]) ↔
        ∃ released, (play ((LockRequest.release (m.lockFor key) token).retried m)
          (play operation held).2).1 = .returned released := by
    rw [← calm_retried_iff, ← List.singleton_append, calm_append, calm_append,
      and_iff_right (resting _), and_iff_left (resting _)]
  rw [play_granted opened, play_lockedSection]
  cases back : (play ((LockRequest.release (m.lockFor key) token).retried m)
      (play operation held).2).1 with
  | returned released =>
      exact .settled begun (calm.mpr ⟨released, back⟩)
  | panicked message =>
      refine .snapped begun fun quiet => ?_
      rcases calm.mp quiet with ⟨released, returned⟩
      rw [back] at returned
      cases returned

/-- A procedure under a lock comes to one of four ends, whatever the lock store does. -/
theorem exclusively_ended (m : Mutex) (key : String) (operation : Script (Except ε α))
    (w : World L C R) : Ended m key operation w (play (m.exclusively key operation) w).1 := by
  cases opened : play (m.opening (m.lockFor key)) w with
  | mk outcome next =>
      cases outcome with
      | panicked message =>
          exact ended_of_panicked opened
      | returned result =>
          rcases result with ⟨token, acquired⟩
          cases acquired with
          | error cause =>
              exact ended_of_refused opened
          | ok granted =>
              exact ended_of_granted opened

theorem notBegun_or_begun (m : Mutex) (key : String) (operation : Script (Except ε α))
    (w : World L C R) :
    NotBegun m key operation w ∨
      ∃ before after held, Begun m key operation w before after held := by
  have ended := exclusively_ended m key operation w
  generalize (play (m.exclusively key operation) w).1 = outcome at ended
  cases ended with
  | broken unbegun panics =>
      exact .inl unbegun
  | keptOut unbegun calm =>
      exact .inl unbegun
  | settled begun calm =>
      exact .inr ⟨_, _, _, begun⟩
  | snapped begun panics =>
      exact .inr ⟨_, _, _, begun⟩

/-! ## Telling of a success -/

theorem followsSuccess_settle {name : String} {outcome : Outcome (Except ε α)}
    {released : Except LockFault Unit} {fault : MutexFault}
    (h : Mutex.settle name outcome released = .error fault) :
    fault.followsSuccess = Mutex.succeeded outcome := by
  cases released with
  | error cause =>
      cases h
      rfl
  | ok back =>
      cases outcome with
      | returned result =>
          cases h
      | panicked message =>
          cases h
          rfl

/--
An error tells of a success where the procedure ran and succeeded and the lock store did not break
down while the lock was given back.
-/
theorem followsSuccess_iff_ran_and_unbroken (m : Mutex) (key : String)
    (operation : Script (Except ε α)) (w : World L C R) (fault : MutexFault)
    (failed : (play (m.exclusively key operation) w).1 = .returned (.error fault)) :
    fault.followsSuccess = true ↔
      ∃ before after held, Begun m key operation w before after held ∧
        Mutex.succeeded (play operation held).1 = true ∧ Calm after := by
  have ended := exclusively_ended m key operation w
  rw [failed] at ended
  generalize told : Outcome.returned (Except.error fault) = outcome at ended
  cases ended with
  | broken unbegun panics =>
      cases told
  | keptOut unbegun calm =>
      cases told
      constructor
      · intro succeeds
        cases succeeds
      · rintro ⟨before, after, held, begun, _⟩
        exact absurd unbegun begun.not_notBegun
  | @settled before after held released begun calm =>
      rw [followsSuccess_settle (Outcome.returned.inj told).symm]
      constructor
      · intro succeeds
        exact ⟨before, after, held, begun, succeeds, calm⟩
      · rintro ⟨before', after', held', begun', succeeds, _⟩
        -- The run tells in which world the procedure began.
        rw [(begun.unique begun').2.1]
        exact succeeds
  | @snapped before after held message begun panics =>
      cases told
      constructor
      · intro succeeds
        cases succeeds
      · rintro ⟨before', after', held', begun', _, calm⟩
        rw [← (begun.unique begun').2.2] at calm
        exact absurd calm panics

def answeringReleases (answer : LockAnswer) : World AnyLocks ClaimRecords Fleet :=
  { locks := .told { releases := [answer] }, claims := .start .epoch, rockets := .empty
    clock := .standing .epoch }

def succeeding : Script (Except Unit Nat) := .done (.ok 7)

theorem success_told_where_release_fails :
    (play (Mutex.exclusively { retries := 1 } "rocket:1" succeeding)
        (answeringReleases (.fails "busy"))).1 =
      .returned (.error (.notReleased "distributed-sync-mutex:rocket:1" true
        (.storeFailed "busy"))) ∧
      ∃ before after held,
        Begun { retries := 1 } "rocket:1" succeeding (answeringReleases (.fails "busy")) before
          after held ∧
        Mutex.succeeded (play succeeding held).1 = true ∧ Calm after := by
  have failed : (play (Mutex.exclusively { retries := 1 } "rocket:1" succeeding)
      (answeringReleases (.fails "busy"))).1 = .returned (.error (.notReleased
        "distributed-sync-mutex:rocket:1" true (.storeFailed "busy"))) :=
    eq_of_fault? (by decide +kernel)
  exact ⟨failed, (followsSuccess_iff_ran_and_unbroken { retries := 1 } "rocket:1" succeeding
    (answeringReleases (.fails "busy")) _ failed).mp rfl⟩

/-- The success is not told where the store panics while it takes the lock back. -/
theorem success_untold_where_release_panics :
    ∃ fault, (play (Mutex.exclusively { retries := 1 } "rocket:1" succeeding)
        (answeringReleases .panics)).1 = .returned (.error fault) ∧
      fault.followsSuccess = false ∧
      ∃ before after held,
        Begun { retries := 1 } "rocket:1" succeeding (answeringReleases .panics) before after
            held ∧
          Mutex.succeeded (play succeeding held).1 = true := by
  have failed : (play (Mutex.exclusively { retries := 1 } "rocket:1" succeeding)
      (answeringReleases .panics)).1 = .returned (.error (.aborted
        "distributed-sync-mutex:rocket:1" "task panicked with message \"lock store blew up\"")) :=
    eq_of_fault? (by decide +kernel)
  refine ⟨_, failed, rfl, ?_⟩
  have ended := exclusively_ended { retries := 1 } "rocket:1" succeeding
    (answeringReleases .panics)
  rw [failed] at ended
  generalize told : Outcome.returned (Except.error _) = outcome at ended
  cases ended with
  | broken unbegun panics =>
      cases told
  | keptOut unbegun calm =>
      cases told
  | @settled before after held released begun calm =>
      exact ⟨before, after, held, begun, rfl⟩
  | @snapped before after held message begun panics =>
      exact ⟨before, after, held, begun, rfl⟩

end World
end MissionControl
