import MissionControl.Proofs.Delivery.Dispatching
import MissionControl.Proofs.Pool.Journal

/-!
# Stages of an exclusive dispatch

What is left of a dispatch under a lock at any point: it has no token yet, it waits for the lock,
or it was let in and holds what is left of its handler.  Each stage says which call can be the next
one, and at which stage the dispatch is after it.
-/

namespace MissionControl

/-! ## Leaving -/

def Call.isParting (name : String) (token : Token) (c : Call) : Prop :=
  c.isIdle = true ∨ ∃ patience, c = .release name token patience

namespace Script

variable {α β ρ : Type} {name : String} {token : Token}

/-- A script that only waits and gives a lock back. -/
def Leaving (name : String) (token : Token) (s : Script α) : Prop :=
  s.Only (Call.isParting name token)

/-- Whether a script has come to its end. -/
def isOver : Script α → Bool
  | call _ _ => false
  | _ => true

/-! ## Holding -/

/-- A script that holds a lock and does what is left of another script before it leaves. -/
inductive Holding (name : String) (token : Token) : Script ρ → Script α → Prop where
  | idle {c : Call} {next : Outcome c.Reply → Script α} {inside : Script ρ} : c.isIdle = true →
      (∀ value, Holding name token inside (next (.returned value))) →
      Holding name token inside (.call c next)
  | works {c : Call} {rest : Outcome c.Reply → Script ρ} {next : Outcome c.Reply → Script α} :
      (∀ reply, Holding name token (rest reply) (next reply)) →
      Holding name token (.call c rest) (.call c next)
  | finished {inside : Script ρ} {s : Script α} : inside.isOver = true → s.Leaving name token →
      Holding name token inside s

namespace Holding

variable {inside : Script ρ} {s : Script α}

theorem bind {f : α → Script β} (h : Holding name token inside s)
    (leaves : ∀ value, (f value).Leaving name token) : Holding name token inside (s.bind f) := by
  induction h with
  | idle waits rest ih =>
      exact .idle waits ih
  | works rest ih =>
      exact .works ih
  | finished ended leaving =>
      exact .finished ended (Only.bind leaving leaves)

theorem outcome (h : Holding name token inside s) : Holding name token inside s.outcome := by
  induction h with
  | idle waits rest ih =>
      exact .idle waits ih
  | works rest ih =>
      exact .works ih
  | finished ended leaving =>
      exact .finished ended (Only.outcome leaving)

theorem rest_bind {f : Unit → Script α} (h : Holding name token inside (f ())) :
    Holding name token inside (rest.bind f) :=
  .idle rfl fun _ => h

theorem isOver (h : Holding name token inside s) (finished : s.isOver = true) :
    inside.isOver = true := by
  cases h with
  | idle waits rest =>
      cases finished
  | works rest =>
      cases finished
  | finished ended leaving =>
      exact ended

theorem of_outcome (s : Script ρ) : Holding name token s s.outcome := by
  induction s with
  | done value =>
      exact .finished rfl trivial
  | panicked message =>
      exact .finished rfl trivial
  | call c next ih =>
      exact .works ih

theorem leaving_rest_bind {f : Unit → Script α} (h : (f ()).Leaving name token) :
    (rest.bind f).Leaving name token := by
  refine ⟨.inl rfl, fun reply => ?_⟩
  cases reply with
  | returned value =>
      exact h
  | panicked message =>
      trivial

theorem task (h : Holding name token inside s.outcome) : Holding name token inside s.task :=
  rest_bind (h.bind fun _ => leaving_rest_bind trivial)

end Holding

/-! ## Waiting -/

/-- A script that asks for a lock, and holds it once it is granted. -/
inductive Waiting (name : String) (token : Token) (inside : Script ρ) : Script α → Prop where
  | idle {c : Call} {next : Outcome c.Reply → Script α} : c.isIdle = true →
      (∀ value, Waiting name token inside (next (.returned value))) →
      Waiting name token inside (.call c next)
  | asks {expiry patience : Duration} {next : Outcome (Except LockFault Bool) → Script α} :
      Holding name token inside (next (.returned (.ok true))) →
      (∀ reply, reply ≠ .returned (.ok true) → Waiting name token inside (next reply)) →
      Waiting name token inside (.call (.acquire name token expiry patience) next)
  | leaving {s : Script α} : s.Leaving name token → Waiting name token inside s

namespace Waiting

variable {inside : Script ρ}

theorem pause_bind (p : RetryPlan) {f : Unit → Script α} (h : Waiting name token inside (f ())) :
    Waiting name token inside (p.pause.bind f) := by
  unfold RetryPlan.pause
  split
  · exact .idle rfl fun _ => h
  · exact .idle rfl fun _ => .idle rfl fun _ => h

theorem attempt_bind {expiry patience : Duration} {f : Except LockFault Unit → Script α}
    (lets : Holding name token inside (f (.ok ())))
    (refused : ∀ cause, Waiting name token inside (f (.error cause))) :
    Waiting name token inside
      (((LockRequest.acquire name token expiry).attempt patience).bind f) := by
  refine .asks lets fun reply no => ?_
  cases reply with
  | panicked message =>
      exact .leaving trivial
  | returned answer =>
      cases answer with
      | error cause =>
          exact refused cause
      | ok granted =>
          cases granted with
          | false =>
              exact refused .heldByAnother
          | true =>
              exact absurd rfl no

theorem attemptFrom_bind (p : RetryPlan) {expiry patience : Duration}
    {f : Except LockFault Unit → Script α} (lets : Holding name token inside (f (.ok ())))
    (leaves : ∀ cause, (f (.error cause)).Leaving name token) (left number : Nat) :
    Waiting name token inside ((p.attemptFrom
      (fun _ => (LockRequest.acquire name token expiry).attempt patience) left number).bind f) := by
  induction left generalizing number with
  | zero =>
      exact attempt_bind lets fun cause => .leaving (leaves cause)
  | succ left ih =>
      rw [RetryPlan.attemptFrom_succ, bind_assoc]
      refine attempt_bind lets fun cause => ?_
      show Waiting name token inside ((p.pause.bind _).bind f)
      rw [bind_assoc]
      exact pause_bind p (ih (number + 1))

end Waiting

end Script

theorem isOver_of_ended {L C R α : Type} {pool : Pool L C R α}
    (ended : ∀ task ∈ pool.tasks, task.outcome?.isSome = true) {i : Nat} {s : Script α}
    (script : pool.script? i = some s) : s.isOver = true := by
  rcases Option.map_eq_some_iff.mp script with ⟨task, found, rfl⟩
  have finished := ended task (List.mem_of_getElem? found)
  unfold Task.outcome? at finished
  cases left : task.script with
  | done value =>
      rfl
  | panicked message =>
      rfl
  | call c next =>
      rw [left] at finished
      cases finished

/-! ## The stages -/

/-- How far a dispatch is. -/
inductive Stage where
  | fresh
  | waiting (token : Token)
  | holding (token : Token) (inside : Script (Except HandlerFault Unit))

namespace Stage

def token? : Stage → Option Token
  | fresh => none
  | waiting token => some token
  | holding token _ => some token

/-- Whether a dispatch has calls of its handler to make. -/
def isInside : Stage → Bool
  | holding _ inside => !inside.isOver
  | _ => false

end Stage

variable {α : Type} {name : String} {handler : Script (Except HandlerFault Unit)}

/-- What is left of a dispatch at a stage. -/
inductive Stands (name : String) (handler : Script (Except HandlerFault Unit)) :
    Stage → Script α → Prop where
  | fresh {next : Outcome Token → Script α} :
      (∀ token, Script.Waiting name token handler (next (.returned token))) →
      Stands name handler .fresh (.call .newToken next)
  | waiting {token : Token} {s : Script α} : Script.Waiting name token handler s →
      Stands name handler (.waiting token) s
  | holding {token : Token} {inside : Script (Except HandlerFault Unit)} {s : Script α} :
      Script.Holding name token inside s → Stands name handler (.holding token inside) s

/-- Which call a dispatch makes at a stage, and at which stage it is after the reply. -/
inductive Turn (name : String) (handler : Script (Except HandlerFault Unit)) :
    Stage → (c : Call) → (Outcome c.Reply → Script α) → Prop where
  | draws {next : Outcome Token → Script α} :
      (∀ token, Stands name handler (.waiting token) (next (.returned token))) →
      Turn name handler .fresh .newToken next
  | rests {stage : Stage} {c : Call} {next : Outcome c.Reply → Script α} : c.isIdle = true →
      (∀ value, Stands name handler stage (next (.returned value))) →
      Turn name handler stage c next
  | asks {token : Token} {expiry patience : Duration}
      {next : Outcome (Except LockFault Bool) → Script α} :
      Stands name handler (.holding token handler) (next (.returned (.ok true))) →
      (∀ reply, reply ≠ .returned (.ok true) →
        Stands name handler (.waiting token) (next reply)) →
      Turn name handler (.waiting token) (.acquire name token expiry patience) next
  | works {token : Token} {c : Call} {rest : Outcome c.Reply → Script (Except HandlerFault Unit)}
      {next : Outcome c.Reply → Script α} :
      (∀ reply, Stands name handler (.holding token (rest reply)) (next reply)) →
      Turn name handler (.holding token (.call c rest)) c next
  | parts {stage : Stage} {token : Token} {patience : Duration}
      {next : Outcome (Except LockFault Bool) → Script α} : stage.token? = some token →
      stage.isInside = false → (∀ reply, Stands name handler stage (next reply)) →
      Turn name handler stage (.release name token patience) next

theorem Stands.turn {stage : Stage} {c : Call} {next : Outcome c.Reply → Script α}
    (h : Stands name handler stage (.call c next)) : Turn name handler stage c next := by
  cases h with
  | fresh waits =>
      exact .draws fun token => .waiting (waits token)
  | waiting h =>
      cases h with
      | idle idle waits =>
          exact .rests idle fun value => .waiting (waits value)
      | asks lets waits =>
          exact .asks (.holding lets) fun reply no => .waiting (waits reply no)
      | leaving leaving =>
          rcases leaving with ⟨idle | ⟨patience, rfl⟩, later⟩
          · exact .rests idle fun value => .waiting (.leaving (later _))
          · exact .parts rfl rfl fun reply => .waiting (.leaving (later reply))
  | holding h =>
      cases h with
      | idle idle holds =>
          exact .rests idle fun value => .holding (holds value)
      | works holds =>
          exact .works fun reply => .holding (holds reply)
      | finished ended leaving =>
          rcases leaving with ⟨idle | ⟨patience, rfl⟩, later⟩
          · exact .rests idle fun value => .holding (.finished ended (later _))
          · refine .parts rfl ?_ fun reply => .holding (.finished ended (later reply))
            show (!Script.isOver _) = false
            rw [ended]
            rfl

/-! ## The first stage -/

namespace Mutex

variable {ε β : Type} (m : Mutex) {token : Token}

theorem leaving_release :
    ((LockRequest.release name token).retried m).Leaving name token :=
  LockRequest.only_retried (.inr ⟨m.patience, rfl⟩) fun _ => Or.inl

theorem leaving_proceed (operation : Script (Except ε β)) (cause : LockFault) :
    (m.proceed name token (.done operation) (.error cause)).Leaving name token := by
  refine Script.Only.bind ?_ fun _ => trivial
  refine Script.Only.bind ?_ fun _ => trivial
  exact Script.Only.perform (.inr ⟨m.patience, rfl⟩)

theorem holding_proceed (operation : Script (Except ε β)) :
    Script.Holding name token operation (m.proceed name token (.done operation) (.ok ())) := by
  have locked : Script.Holding name token operation (m.lockedSection name token operation) := by
    rw [lockedSection_eq]
    refine (Script.Holding.task (.of_outcome operation)).bind fun result => ?_
    exact (leaving_release m).bind fun _ => trivial
  exact (Script.Holding.task locked.outcome).bind fun _ => trivial

end Mutex

theorem stands_dispatch {bus : EventBus} {event : RocketEvent} (m : Mutex)
    {h : Handler RocketEvent Unit} (registered : bus.handler? event.kind.type.name = some h) :
    Stands (m.lockFor event.lockKey) (h event) .fresh (bus.dispatchExclusively m event) := by
  rw [World.dispatchExclusively_of_some m registered, m.exclusively_eq]
  refine .fresh fun token => ?_
  show Script.Waiting _ token _
    ((((LockRequest.acquire (m.lockFor event.lockKey) token m.expiry).retried m).bind
      (m.proceed (m.lockFor event.lockKey) token (.done (h event)))).bind _)
  rw [Script.bind_assoc]
  refine Script.Waiting.attemptFrom_bind m.retrying ?_ (fun cause => ?_) _ _
  · exact (m.holding_proceed (h event)).bind fun _ => trivial
  · exact (m.leaving_proceed (h event) cause).bind fun _ => trivial

theorem EventBus.handler?_full (guard : Guard) (type : EventType) :
    (full guard).handler? type.name = some (EventHandler.ofType guard type).handle := by
  cases type <;> rfl

end MissionControl
