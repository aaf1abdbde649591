import MissionControl.Claim.Store
import MissionControl.Lock.Store
import MissionControl.Rocket.Store

/-!
# Scripts

What a procedure of the service does: it makes calls, one after another, each depending on the
replies before it, and ends with a value or a panic.  A script says nothing of what answers the
calls, so the same procedure can be played against one world, or step by step among others.
-/

namespace MissionControl

/-! ## Calls -/

abbrev Deviation := { x : Rat // -1 ≤ x ∧ x ≤ 1 }

instance : Inhabited Deviation :=
  ⟨0, by decide⟩

/-- One step of a procedure: a call on a store, or on the machine that it runs on. -/
inductive Call where
  /-- Looks for the live rocket under an identifier. -/
  | findRocket (id : RocketId)
  /-- Asks whether there is a record under an identifier, live or not. -/
  | isKnown (id : RocketId)
  | listRockets (key : SortKey)
  | saveRocket (r : Rocket)
  /-- Asks for a lock and waits for the answer, but not longer than `patience`. -/
  | acquire (name : String) (token : Token) (expiry patience : Duration)
  /-- Gives a lock back and waits for the answer, but not longer than `patience`. -/
  | release (name : String) (token : Token) (patience : Duration)
  | claim (eventId : String) (retention : Duration)
  | forget (eventId : String)
  | newToken
  | draw
  /-- Waits for some nanoseconds, and lets others go on meanwhile. -/
  | pause (nanoseconds : Rat)
  /-- Moves the clock that is moved by hand by some milliseconds. -/
  | moveClock (milliseconds : Int)
  deriving DecidableEq

abbrev Call.Reply : Call → Type
  | findRocket _ => Except Refusal Rocket
  | isKnown _ => Except Refusal Bool
  | listRockets _ => Except Refusal (List Rocket)
  | saveRocket _ => Except Refusal Unit
  | acquire _ _ _ _ => Except LockFault Bool
  | release _ _ _ => Except LockFault Bool
  | claim _ _ => Except ClaimFault Bool
  | forget _ => Except ClaimFault Unit
  | newToken => Token
  | draw => Deviation
  | pause _ => Unit
  | moveClock _ => Unit

/-! ## Scripts -/

/-- A procedure that ends with an `α`. -/
inductive Script (α : Type) where
  | done (value : α)
  | panicked (message : String)
  /-- Makes a call and goes on with its reply, or with the panic that it met. -/
  | call (c : Call) (next : Outcome c.Reply → Script α)

namespace Script

variable {α β γ : Type}

def bind (s : Script α) (f : α → Script β) : Script β :=
  match s with
  | done value => f value
  | panicked message => panicked message
  | call c next => call c fun reply => (next reply).bind f

instance : Monad Script where
  pure := done
  bind := bind

def ofOutcome : Outcome α → Script α
  | .returned value => done value
  | .panicked message => panicked message

/-- Makes one call; a panic in it unwinds. -/
def perform (c : Call) : Script c.Reply :=
  call c ofOutcome

def rest : Script Unit :=
  perform (.pause 0)

def outcome : Script α → Script (Outcome α)
  | done value => done (.returned value)
  | panicked message => done (.panicked message)
  | call c next => call c fun reply => (next reply).outcome

/--
Runs a script as a task of its own, which takes its turn among others, and waits for it.  A panic
ends the task only.
-/
def task (s : Script α) : Script (Outcome α) := do
  rest
  let result ← s.outcome
  rest
  return result

def abortReason (message : String) : String :=
  s!"task panicked with message {Text.quoted message}"

/-! ## Runs -/

structure Exchange where
  call : Call
  reply : Outcome call.Reply

/-- A script may make these exchanges, in this order, and then end so. -/
inductive Runs : Script α → List Exchange → Outcome α → Prop where
  | done (value : α) : Runs (.done value) [] (.returned value)
  | panicked (message : String) : Runs (.panicked message) [] (.panicked message)
  | call {c : Call} {next : Outcome c.Reply → Script α} {reply : Outcome c.Reply}
      {exchanges : List Exchange} {result : Outcome α} :
      Runs (next reply) exchanges result → Runs (.call c next) (⟨c, reply⟩ :: exchanges) result

/-! ## Laws -/

theorem bind_eq (s : Script α) (f : α → Script β) : s >>= f = s.bind f := rfl

@[simp]
theorem bind_done (value : α) (f : α → Script β) : (done value).bind f = f value := rfl

@[simp]
theorem bind_panicked (message : String) (f : α → Script β) :
    (panicked message : Script α).bind f = panicked message := rfl

@[simp]
theorem bind_call (c : Call) (next : Outcome c.Reply → Script α) (f : α → Script β) :
    (call c next).bind f = call c fun reply => (next reply).bind f := rfl

theorem bind_pure (s : Script α) : s.bind done = s := by
  induction s with
  | done value =>
      rfl
  | panicked message =>
      rfl
  | call c next ih =>
      simp [ih]

theorem bind_assoc (s : Script α) (f : α → Script β) (g : β → Script γ) :
    (s.bind f).bind g = s.bind fun value => (f value).bind g := by
  induction s with
  | done value =>
      rfl
  | panicked message =>
      rfl
  | call c next ih =>
      simp [ih]

instance : LawfulMonad Script :=
  LawfulMonad.mk' Script bind_pure (fun _ _ => rfl) bind_assoc

end Script

end MissionControl
