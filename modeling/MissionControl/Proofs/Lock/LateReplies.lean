import MissionControl.Proofs.Checked
import MissionControl.Proofs.Lock.Breakdown
import MissionControl.Proofs.Lock.Ownership

/-!
# Late replies

A lock store may do what it is asked for at once and let the answer come late, or never.  A caller
that gave its lock back without hearing of it asks again, and is then told that it does not hold
the lock.  The main statement says when a lock that was given back is reported as stuck: just where
the answer to the request that gave it back did not come in time.
-/

namespace MissionControl

/-! ## Stores that answer late -/

/-- A reply that is an answer, sooner or later, or its loss. -/
inductive LockReply.Delayed : (answer reply : LockReply) → Prop where
  | late {early late : Nat} (result : Except LockFault Bool) : early ≤ late →
      Delayed (.answers early result) (.answers late result)
  | lost {answer : LockReply} : answer.isPanic = false → Delayed answer .silent
  | panicked (message : String) : Delayed (.panics message) (.panics message)

def LeaseRequest.bearer? : LeaseRequest → Option Token
  | acquire _ token _ => some token
  | release _ token => some token
  | isHeld _ => none

theorem LeaseEntry.bearer_of_grant? {entry : LeaseEntry} {name : String} {lease : Lease}
    (granted : entry.grant? = some (name, lease)) : entry.request.bearer? = some lease.token := by
  unfold grant? at granted
  split at granted
  · rename_i asked _
    rcases Option.map_eq_some_iff.mp granted with ⟨expires, _, same⟩
    cases same
    rw [asked]
    rfl
  · cases granted

/--
What a call on a store comes to where the leases that it meets come to `told`: their answer is on
its way, and until the next call others may be served, who do not bear the token `own`.
-/
def Follows {L : Type} (own : Token) (met : L → Leases) (told : LockReply × Leases)
    (comes : LockReply × L) : Prop :=
  told.1.Delayed comes.1 ∧ ∃ others : List (Instant × LeaseRequest),
    (∀ call ∈ others, call.2.bearer? ≠ some own) ∧ met comes.2 = told.2.served others

/-- A lock store that keeps leases, those that the next call meets, and may answer late. -/
structure KeepsLeases {L : Type} [LockStore L] (own : Token) (met : L → Leases) : Prop where
  acquire : ∀ name token expiry reading store, Follows own met
    (LockStore.acquire name token expiry reading (met store))
    (LockStore.acquire name token expiry reading store)
  release : ∀ name token reading store, Follows own met
    (LockStore.release name token reading (met store))
    (LockStore.release name token reading store)

/-! ## Leases that are gone -/

namespace Leases

variable {leases : Leases} {name : String} {own token : Token} {reading : Outcome Instant}

def Unheld (name : String) (token : Token) (leases : Leases) : Prop :=
  ∀ lease, leases.granted.get? name = some lease → lease.token ≠ token

/-- A request to give a lock back takes the lease of the bearer out of the store. -/
structure Removes (name : String) (token : Token) (reading : Outcome Instant) (leases : Leases) :
    Prop where
  held : ∃ lease, leases.granted.get? name = some lease ∧ lease.token = token
  gone : (LockStore.release name token reading leases).2.granted.get? name = none

theorem unheld_serve {now : Instant} {request : LeaseRequest} (unheld : leases.Unheld name own)
    (other : request.bearer? ≠ some own) : (leases.serve now request).2.Unheld name own := by
  intro lease found
  rw [get?_serve] at found
  unfold LeaseEntry.leaves at found
  split at found
  · rename_i granted fresh grant
    split at found
    · cases found
      intro same
      exact other (same ▸ LeaseEntry.bearer_of_grant? grant)
    · exact unheld lease found
  · split at found
    · cases found
    · exact unheld lease found
  · exact unheld lease found

theorem unheld_served {others : List (Instant × LeaseRequest)} (unheld : leases.Unheld name own)
    (apart : ∀ call ∈ others, call.2.bearer? ≠ some own) :
    (leases.served others).Unheld name own := by
  induction others generalizing leases with
  | nil =>
      exact unheld
  | cons call rest ih =>
      rcases List.forall_mem_cons.mp apart with ⟨first, later⟩
      exact ih (unheld_serve unheld first) later

/-- Who has no lease on a lock is not told that it was given back, and gets none by asking. -/
theorem release_of_unheld (unheld : leases.Unheld name token) (now : Instant) :
    ∃ result, LockStore.release name token (.returned now) leases = (.now result, leases) ∧
      result ≠ .ok true := by
  have released := released_release name token now leases
  change ∃ result, leases.release name token now = (.now result, leases) ∧ result ≠ .ok true
  generalize leases.release name token now = told at released ⊢
  cases released with
  | failed fault =>
      exact ⟨.error fault, rfl, by simp⟩
  | refused =>
      exact ⟨.ok false, rfl, by simp⟩
  | returned found own live =>
      exact absurd own (unheld _ found)

theorem Removes.comes (h : Removes name token reading leases) : ∃ now,
    reading = .returned now ∧ LockStore.release name token reading leases =
      (.now (.ok true), { leases with granted := leases.granted.erase name }) := by
  rcases h.held with ⟨lease, found, _⟩
  have gone := h.gone
  cases reading with
  | panicked message =>
      change leases.granted.get? name = none at gone
      rw [found] at gone
      cases gone
  | returned now =>
      refine ⟨now, rfl, ?_⟩
      change leases.release name token now = _
      change (leases.release name token now).2.granted.get? name = none at gone
      have released := released_release name token now leases
      generalize leases.release name token now = told at released gone ⊢
      cases released with
      | failed fault =>
          rw [found] at gone
          cases gone
      | refused =>
          rw [found] at gone
          cases gone
      | returned _ _ _ =>
          rfl

end Leases

namespace LockReply.Delayed

variable {reply : LockReply} {result : Except LockFault Bool}

theorem calm (h : (now result).Delayed reply) : reply.isPanic = false := by
  cases h <;> rfl

theorem grants_of_ne (patience : Duration) (h : (now result).Delayed reply)
    (no : result ≠ .ok true) : reply.grants patience = false := by
  cases h with
  | late later le =>
      cases result with
      | error cause =>
          rfl
      | ok granted =>
          cases granted with
          | false =>
              rfl
          | true =>
              exact absurd rfl no
  | lost answered =>
      rfl

end LockReply.Delayed

/-! ## Giving a lock back that is gone -/

namespace World

variable {L C R : Type} [LockStore L] [ClaimStore C] [RocketStore R] {m : Mutex} {name key : String}
  {own : Token} {met : L → Leases} {w : World L C R}

/-- The clock goes, and the caller has no lease on the lock. -/
structure Parted (name : String) (own : Token) (met : L → Leases) (w : World L C R) : Prop where
  goes : ∃ readings, w.clock = .going readings
  unheld : (met w.locks).Unheld name own

theorem Parted.idle (h : Parted name own met w) {c : Call} (idle : c.isIdle = true) :
    Parted name own met (w.serve c).world := by
  rcases h with ⟨goes, unheld⟩
  cases c with
  | pause nanoseconds =>
      exact ⟨goes, unheld⟩
  | draw =>
      exact ⟨goes, unheld⟩
  | _ =>
      cases idle

omit [LockStore L] [ClaimStore C] [RocketStore R] in
theorem Parted.waited {v : World L C R} (h : Parted name own met v) (milliseconds : Nat) :
    Parted name own met (v.waited milliseconds) := by
  constructor
  · exact h.goes
  · exact h.unheld

theorem Parted.pause (h : Parted name own met w) (p : RetryPlan) :
    Parted name own met (play p.pause w).2 := by
  refine play_keeps (Parted name own met) (fun c v idle parted => ?_)
    (p.only_pause fun _ idle => idle) h
  exact (parted.idle idle).waited (v.serve c).wait

theorem locksAnswer_attempt (patience : Duration) {r : LockRequest}
    (calm : (w.replyTo r).isPanic = false) : LocksAnswer (r.attempt patience) w := by
  intro exchange mem
  rw [lockLog_attempt, List.mem_singleton] at mem
  rw [mem]
  exact calm

theorem parted_requested {readings : Supply Instant} (clock : w.clock = .going readings)
    {told : LockReply × Leases} (unheld : told.2.Unheld name own)
    (follows : Follows own met told (LockStore.release name own w.clock.read w.locks))
    (patience : Duration) : Parted name own met (w.requested patience (.release name own)) := by
  rcases follows with ⟨_, others, apart, left⟩
  refine Parted.waited ⟨⟨readings.after, ?_⟩, ?_⟩ _
  · show w.clock.tick = _
    rw [clock]
    rfl
  · show (met (LockStore.release name own w.clock.read w.locks).2).Unheld name own
    rw [left]
    exact Leases.unheld_served unheld apart

theorem Parted.attempt (h : Parted name own met w) (keeps : KeepsLeases own met)
    (patience : Duration) :
    (∃ cause, play ((LockRequest.release name own).attempt patience) w =
        (.returned (.error cause), w.requested patience (.release name own))) ∧
      Parted name own met (w.requested patience (.release name own)) := by
  rcases h.goes with ⟨readings, clock⟩
  have follows := keeps.release name own w.clock.read w.locks
  rcases Leases.release_of_unheld h.unheld readings.first with ⟨result, told, no⟩
  change LockStore.release name own (Clock.going readings).read (met w.locks) = _ at told
  rw [← clock] at told
  rw [told] at follows
  constructor
  · have calm : (w.replyTo (.release name own)).isPanic = false := follows.1.calm
    have played := play_attempt (locksAnswer_attempt patience calm)
    have refused : (w.replyTo (.release name own)).grants patience = false :=
      follows.1.grants_of_ne patience no
    rw [refused] at played
    exact ⟨_, played⟩
  · exact parted_requested clock h.unheld follows patience

/-- However often it is asked for, a lock that is gone is not given back. -/
theorem Parted.attempts (h : Parted name own met w) (keeps : KeepsLeases own met)
    (p : RetryPlan) (patience : Duration) (left number : Nat) :
    ∃ cause, (play (p.attemptFrom (fun _ => (LockRequest.release name own).attempt patience) left
      number) w).1 = .returned (.error cause) := by
  induction left generalizing number w with
  | zero =>
      rcases (h.attempt keeps patience).1 with ⟨cause, played⟩
      exact ⟨cause, congrArg Prod.fst played⟩
  | succ left ih =>
      rcases h.attempt keeps patience with ⟨⟨cause, played⟩, parted⟩
      rcases play_pause p (w.requested patience (.release name own)) with ⟨rested, paused⟩
      have still := parted.pause p
      rw [paused] at still
      rw [RetryPlan.attemptFrom_succ, play_bind_of_returned played, play_bind_of_returned paused]
      exact ih still (number + 1)

theorem attempt_of_removes (keeps : KeepsLeases own met) (patience : Duration)
    (removes : Leases.Removes name own w.clock.read (met w.locks)) :
    (∃ cause, play ((LockRequest.release name own).attempt patience) w =
        (.returned (if (w.replyTo (.release name own)).grants patience then .ok ()
          else .error cause), w.requested patience (.release name own))) ∧
      Parted name own met (w.requested patience (.release name own)) := by
  have follows := keeps.release name own w.clock.read w.locks
  rcases removes.comes with ⟨now, read, told⟩
  rw [told] at follows
  constructor
  · have calm : (w.replyTo (.release name own)).isPanic = false := follows.1.calm
    exact ⟨_, play_attempt (locksAnswer_attempt patience calm)⟩
  · have gone : Leases.Unheld name own
        { met w.locks with granted := (met w.locks).granted.erase name } := by
      intro lease found
      rw [Register.get?_erase, if_pos rfl] at found
      cases found
    cases clock : w.clock with
    | broken =>
        rw [clock] at read
        cases read
    | going readings =>
        exact parted_requested clock gone follows patience

theorem attempts_of_removes (keeps : KeepsLeases own met) (p : RetryPlan) (patience : Duration)
    (left number : Nat) {x : Moment L C R}
    (mem : x ∈ moments (p.attemptFrom (fun _ => (LockRequest.release name own).attempt patience)
      left number) w)
    (asks : x.call = .release name own patience)
    (removes : Leases.Removes name own x.world.clock.read (met x.world.locks)) :
    ∃ released, (play (p.attemptFrom (fun _ => (LockRequest.release name own).attempt patience)
        left number) w).1 = .returned released ∧
      (released = .ok () ↔ (x.world.replyTo (.release name own)).grants patience = true) := by
  have here : moments ((LockRequest.release name own).attempt patience) w =
      [⟨w, .release name own patience⟩] := moments_attempt patience (.release name own) w
  induction left generalizing number w with
  | zero =>
      rw [RetryPlan.attemptFrom_zero] at mem ⊢
      rw [here, List.mem_singleton] at mem
      subst mem
      rcases (attempt_of_removes keeps patience removes).1 with ⟨cause, played⟩
      refine ⟨_, congrArg Prod.fst played, ?_⟩
      by_cases grants : (w.replyTo (.release name own)).grants patience = true
      · simp [grants]
      · simp [grants]
  | succ left ih =>
      rw [RetryPlan.attemptFrom_succ] at mem ⊢
      rw [moments_bind, here] at mem
      rcases List.mem_append.mp mem with first | later
      · rw [List.mem_singleton] at first
        subst first
        rcases attempt_of_removes keeps patience removes with ⟨⟨cause, played⟩, parted⟩
        by_cases grants : (w.replyTo (.release name own)).grants patience = true
        · rw [if_pos grants] at played
          rw [play_bind_of_returned played]
          exact ⟨.ok (), rfl, by simp [grants]⟩
        · rw [if_neg grants] at played
          rcases play_pause p (w.requested patience (.release name own)) with ⟨rested, paused⟩
          have still := parted.pause p
          rw [paused] at still
          rcases still.attempts keeps p patience left (number + 1) with ⟨last, failed⟩
          rw [play_bind_of_returned played, play_bind_of_returned paused, failed]
          exact ⟨.error last, rfl, by simp [grants]⟩
      · -- the first attempt failed, or there would be no later one
        cases played : play ((LockRequest.release name own).attempt patience) w with
        | mk outcome next =>
            rw [played] at later
            cases outcome with
            | panicked message =>
                cases later
            | returned answer =>
                cases answer with
                | ok granted =>
                    cases later
                | error cause =>
                    rcases play_pause p next with ⟨rested, paused⟩
                    change x ∈ moments (p.pause.bind _) next at later
                    rw [moments_bind_of_returned paused] at later
                    rw [play_bind_of_returned played, play_bind_of_returned paused]
                    rcases List.mem_append.mp later with resting | asking
                    · have idle := allowed_of_mem_moments
                        (p.only_pause fun _ idle => idle) resting
                      rw [asks] at idle
                      cases idle
                    · exact ih (number + 1) asking
                        (moments_attempt patience (.release name own) rested)

/-! ## Procedures under a lock -/

variable {ε α : Type} {operation : Script (Except ε α)} {x : Moment L C R}
  {before after : List (Moment L C R)} {held next : World L C R} {token : Token}

theorem token_of_opening {acquired : Except LockFault Unit}
    (opened : play (m.opening name) w = (.returned (token, acquired), next)) :
    token = .fresh w.tokens := by
  unfold Mutex.opening at opened
  rw [play_bind_of_returned (play_newToken w), play_bind] at opened
  cases asked : play ((LockRequest.acquire name (.fresh w.tokens) m.expiry).retried m)
      { w with tokens := w.tokens + 1 } with
  | mk outcome rest =>
      rw [asked] at opened
      cases outcome with
      | panicked message =>
          cases opened
      | returned answer =>
          cases opened
          rfl

theorem opened_of_begun (begun : Begun m key operation w before after held) :
    play (m.opening (m.lockFor key)) w = (.returned (.fresh w.tokens, .ok ()), held) := by
  have ended := exclusively_ended m key operation w
  cases opened : play (m.opening (m.lockFor key)) w with
  | mk outcome next =>
      cases outcome with
      | panicked message =>
          rw [m.exclusively_opening, play_bind_of_panicked opened] at ended
          cases ended with
          | broken unbegun panics =>
              exact absurd unbegun begun.not_notBegun
      | returned result =>
          rcases result with ⟨token, acquired⟩
          have same := token_of_opening opened
          subst same
          cases acquired with
          | ok granted =>
              rw [(begun.unique (begun_of_granted opened operation)).2.1]
          | error cause =>
              -- giving the lock up comes to no result that a procedure could have come to
              rw [m.exclusively_opening, play_bind_of_returned opened] at ended
              dsimp only at ended
              rcases proceed_error_ended m (m.lockFor key) (.fresh w.tokens) operation cause next
                with ⟨⟨message, panicked⟩, _⟩ | ⟨returned, _⟩
              · rw [panicked] at ended
                cases ended with
                | broken unbegun panics =>
                    exact absurd unbegun begun.not_notBegun
              · rw [returned] at ended
                generalize told : Outcome.returned (Except.error _) = outcome at ended
                cases ended with
                | broken unbegun panics =>
                    exact absurd unbegun begun.not_notBegun
                | keptOut unbegun calm =>
                    exact absurd unbegun begun.not_notBegun
                | @settled _ _ began released _ _ =>
                    cases released with
                    | error cause =>
                        cases told
                    | ok back =>
                        cases ran : (play operation began).1 with
                        | returned value =>
                            rw [ran] at told
                            cases told
                        | panicked message =>
                            rw [ran] at told
                            cases told
                | snapped _ panics =>
                    cases told

/-- A lock is reported as stuck. -/
def ReportsStuck (lock : String) (outcome : Outcome (Except MutexFault (Except ε α))) : Prop :=
  ∃ succeeded cause, outcome = .returned (.error (.notReleased lock succeeded cause))

theorem reportsStuck_settle {lock : String} {result : Outcome (Except ε α)}
    {released : Except LockFault Unit} :
    ReportsStuck lock (.returned (Mutex.settle lock result released)) ↔ released ≠ .ok () := by
  cases released with
  | error cause =>
      exact ⟨fun _ => by simp, fun _ => ⟨_, cause, rfl⟩⟩
  | ok back =>
      refine ⟨?_, fun failed => absurd rfl failed⟩
      rintro ⟨succeeded, cause, told⟩
      cases result <;> cases told

theorem not_reportsStuck_of_notBegun (unbegun : NotBegun m key operation w) :
    ¬ReportsStuck (m.lockFor key) (play (m.exclusively key operation) w).1 := by
  rintro ⟨succeeded, cause, told⟩
  have ended := exclusively_ended m key operation w
  rw [told] at ended
  generalize same : Outcome.returned (Except.error _) = outcome at ended
  cases ended with
  | broken _ panics =>
      cases same
  | keptOut _ calm =>
      cases same
  | settled begun calm =>
      exact absurd unbegun begun.not_notBegun
  | snapped begun panics =>
      exact absurd unbegun begun.not_notBegun

theorem mem_retried_of_begun (begun : Begun m key operation w before after held) (mem : x ∈ after)
    {lock : String} (asks : x.call = .release lock token m.patience) :
    x ∈ moments ((LockRequest.release (m.lockFor key) (.fresh w.tokens)).retried m)
      (play operation held).2 := by
  rw [(begun.unique (begun_of_granted (opened_of_begun begun) operation)).2.2] at mem
  rcases List.mem_append.mp mem with first | last
  · rcases List.mem_cons.mp first with resting | asking
    · rw [resting] at asks
      cases asks
    · exact asking
  · rw [List.mem_singleton.mp last] at asks
    cases asks

theorem reportsStuck_iff_of_begun (begun : Begun m key operation w before after held)
    {released : Except LockFault Unit}
    (gaveBack : (play ((LockRequest.release (m.lockFor key) (.fresh w.tokens)).retried m)
      (play operation held).2).1 = .returned released) :
    ReportsStuck (m.lockFor key) (play (m.exclusively key operation) w).1 ↔ released ≠ .ok () := by
  have settled : (play (m.exclusively key operation) w).1 =
      .returned (Mutex.settle (m.lockFor key) (play operation held).1 released) := by
    rw [play_granted (opened_of_begun begun), play_lockedSection, gaveBack]
    rfl
  rw [settled, reportsStuck_settle]

/-- A call by which a lock is given back, once the procedure has run or in its stead. -/
inductive GivesBack (m : Mutex) (key : String) (operation : Script (Except ε α))
    (w : World L C R) (x : Moment L C R) : Prop where
  | afterwards {before after : List (Moment L C R)} {held : World L C R} :
      Begun m key operation w before after held → x ∈ after →
      x.call = .release (m.lockFor key) (.fresh w.tokens) m.patience →
      GivesBack m key operation w x
  | instead : NotBegun m key operation w → x ∈ moments (m.exclusively key operation) w →
      x.call = .release (m.lockFor key) (.fresh w.tokens) m.patience →
      GivesBack m key operation w x

/--
Where a request took the lease out of the store, the lock is reported as stuck if the answer to
this request did not come in time to a procedure that had run, and only then.
-/
theorem reportsStuck_iff_unheard (m : Mutex) (key : String) (operation : Script (Except ε α))
    (w : World L C R) (met : L → Leases) (keeps : KeepsLeases (.fresh w.tokens) met)
    (x : Moment L C R) (gives : GivesBack m key operation w x)
    (removes : Leases.Removes (m.lockFor key) (.fresh w.tokens) x.world.clock.read
      (met x.world.locks)) :
    ReportsStuck (m.lockFor key) (play (m.exclusively key operation) w).1 ↔
      (∃ before after held, Begun m key operation w before after held) ∧
        (x.world.replyTo (.release (m.lockFor key) (.fresh w.tokens))).grants m.patience =
          false := by
  cases gives with
  | instead unbegun mem asks =>
      constructor
      · intro stuck
        exact absurd stuck (not_reportsStuck_of_notBegun unbegun)
      · rintro ⟨⟨before, after, held, begun⟩, _⟩
        exact absurd unbegun begun.not_notBegun
  | @afterwards before after held begun mem asks =>
      have asking := mem_retried_of_begun begun mem asks
      rcases attempts_of_removes keeps m.retrying m.patience _ _ asking asks removes with
        ⟨released, comes, heard⟩
      rw [reportsStuck_iff_of_begun begun comes, ne_eq, heard, Bool.not_eq_true]
      exact ⟨fun unheard => ⟨⟨before, after, held, begun⟩, unheard⟩, fun both => both.2⟩

theorem givesBack_of_granted (opened : play (m.opening (m.lockFor key)) w =
      (.returned (.fresh w.tokens, .ok ()), held)) :
    GivesBack m key operation w
      ⟨(play operation held).2, .release (m.lockFor key) (.fresh w.tokens) m.patience⟩ := by
  refine .afterwards (begun_of_granted opened operation) (List.mem_append_left _ ?_) rfl
  apply List.mem_cons_of_mem
  unfold LockRequest.retried RetryPlan.retry
  have here := moments_attempt m.patience (.release (m.lockFor key) (.fresh w.tokens))
    (play operation held).2
  cases m.retrying.limit - 1 with
  | zero =>
      rw [RetryPlan.attemptFrom_zero, here]
      exact List.mem_singleton_self _
  | succ left =>
      rw [RetryPlan.attemptFrom_succ, moments_bind, here]
      exact List.mem_append_left _ (List.mem_singleton_self _)

end World

/-! ## Leases with late answers -/

structure LateLeases where
  leases : Leases := {}
  delays : List Nat := []

def LockReply.later (milliseconds : Nat) : LockReply → LockReply
  | answers after result => answers (after + milliseconds) result
  | reply => reply

theorem LockReply.delayed_later (milliseconds : Nat) (reply : LockReply) :
    reply.Delayed (reply.later milliseconds) := by
  cases reply with
  | answers after result =>
      exact .late result (Nat.le_add_right _ _)
  | silent =>
      exact .lost rfl
  | panics message =>
      exact .panicked message

namespace LateLeases

def answer (store : LateLeases) (told : LockReply × Leases) : LockReply × LateLeases :=
  (told.1.later (store.delays.headD 0), ⟨told.2, store.delays.tail⟩)

instance : LockStore LateLeases where
  acquire name token expiry reading store :=
    store.answer (LockStore.acquire name token expiry reading store.leases)
  release name token reading store :=
    store.answer (LockStore.release name token reading store.leases)

theorem follows_answer (own : Token) (store : LateLeases) (told : LockReply × Leases) :
    Follows own leases told (store.answer told) :=
  ⟨LockReply.delayed_later _ _, [], by simp, rfl⟩

theorem keepsLeases (own : Token) : KeepsLeases own leases := by
  constructor
  · intro name token expiry reading store
    exact follows_answer own store _
  · intro name token reading store
    exact follows_answer own store _

def world (delays : List Nat) : World LateLeases ClaimRecords Fleet :=
  { locks := { delays := delays }, claims := .start .epoch, rockets := .empty
    clock := .standing .epoch }

def held (delays : List Nat) : World LateLeases ClaimRecords Fleet :=
  (World.play (Mutex.opening { retries := 2 } "distributed-sync-mutex:rocket:1")
    (world delays)).2

def first (delays : List Nat) : Moment LateLeases ClaimRecords Fleet :=
  ⟨(World.play World.succeeding (held delays)).2,
    .release "distributed-sync-mutex:rocket:1" (.fresh 0) (.ofMilliseconds 1500)⟩

variable {delays : List Nat}

theorem opened (granted : (World.play
      (Mutex.opening { retries := 2 } "distributed-sync-mutex:rocket:1") (world delays)).1.map
        (fun told => told.2.toOption) = .returned (some ())) :
    World.play (Mutex.opening { retries := 2 } "distributed-sync-mutex:rocket:1") (world delays) =
      (.returned (.fresh 0, .ok ()), held delays) := by
  cases opened : World.play (Mutex.opening { retries := 2 } "distributed-sync-mutex:rocket:1")
      (world delays) with
  | mk outcome next =>
      have same : held delays = next := congrArg Prod.snd opened
      rw [opened] at granted
      cases outcome with
      | panicked message =>
          cases granted
      | returned told =>
          rcases told with ⟨token, acquired⟩
          have fresh : token = .fresh 0 := World.token_of_opening opened
          have given : acquired = .ok () :=
            eq_ok_of_toOption_eq_some (Outcome.returned.inj granted)
          rw [fresh, given, same]

theorem givesBack_first (granted : (World.play
      (Mutex.opening { retries := 2 } "distributed-sync-mutex:rocket:1") (world delays)).1.map
        (fun told => told.2.toOption) = .returned (some ())) :
    World.GivesBack { retries := 2 } "rocket:1" World.succeeding (world delays) (first delays) := by
  have lock : ({ retries := 2 } : Mutex).lockFor "rocket:1" =
      "distributed-sync-mutex:rocket:1" := rfl
  have patience : ({ retries := 2 } : Mutex).patience = .ofMilliseconds 1500 := by
    decide +kernel
  have gives : World.GivesBack { retries := 2 } "rocket:1" World.succeeding (world delays) _ :=
    World.givesBack_of_granted (by rw [lock]; exact opened granted)
  rw [lock, patience] at gives
  exact gives

theorem unreported_where_reply_is_in_time :
    World.GivesBack { retries := 2 } "rocket:1" World.succeeding (world [0, 1500])
        (first [0, 1500]) ∧
      Leases.Removes "distributed-sync-mutex:rocket:1" (.fresh 0)
        (first [0, 1500]).world.clock.read (first [0, 1500]).world.locks.leases ∧
      ¬World.ReportsStuck "distributed-sync-mutex:rocket:1"
        (World.play (Mutex.exclusively { retries := 2 } "rocket:1" World.succeeding)
          (world [0, 1500])).1 := by
  have gives : World.GivesBack { retries := 2 } "rocket:1" World.succeeding (world [0, 1500])
      (first [0, 1500]) := givesBack_first (by decide +kernel)
  have removes : Leases.Removes "distributed-sync-mutex:rocket:1" (.fresh 0)
      (first [0, 1500]).world.clock.read (first [0, 1500]).world.locks.leases := by
    constructor
    · exact ⟨⟨.fresh 0, ⟨30, 0⟩⟩, by decide +kernel, rfl⟩
    · decide +kernel
  refine ⟨gives, removes, ?_⟩
  intro stuck
  have unheard := ((World.reportsStuck_iff_unheard { retries := 2 } "rocket:1" World.succeeding
    (world [0, 1500]) leases (keepsLeases _) (first [0, 1500]) gives removes).mp stuck).2
  have heard : ((first [0, 1500]).world.replyTo (.release
      (({ retries := 2 } : Mutex).lockFor "rocket:1") (.fresh (world [0, 1500]).tokens))).grants
        ({ retries := 2 } : Mutex).patience = true := by
    decide +kernel
  rw [heard] at unheard
  cases unheard

/-- The answer comes a millisecond later, and the lock that is free is reported as stuck. -/
theorem reported_where_reply_is_late :
    KeepsLeases (.fresh 0) leases ∧
      World.GivesBack { retries := 2 } "rocket:1" World.succeeding (world [0, 1501])
        (first [0, 1501]) ∧
      Leases.Removes "distributed-sync-mutex:rocket:1" (.fresh 0)
        (first [0, 1501]).world.clock.read (first [0, 1501]).world.locks.leases ∧
      (World.play (Mutex.exclusively { retries := 2 } "rocket:1" World.succeeding)
          (world [0, 1501])).1 =
        .returned (.error (.notReleased "distributed-sync-mutex:rocket:1" true .notHeld)) := by
  refine ⟨keepsLeases _, givesBack_first (by decide +kernel), ?_, ?_⟩
  · constructor
    · exact ⟨⟨.fresh 0, ⟨30, 0⟩⟩, by decide +kernel, rfl⟩
    · decide +kernel
  · exact World.eq_of_fault? (by decide +kernel)

end LateLeases

end MissionControl
