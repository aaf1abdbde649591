import MissionControl.Lock.Mutex
import MissionControl.Register

/-!
# Buses

A bus passes each input to the one handler registered for its type.  An exclusive dispatch holds
the lock for the input's key while the handler runs.  Faults in the wiring of a bus are told apart
from what handlers and locks come to.
-/

namespace MissionControl

/-! ## Inputs and handlers -/

class Input (ι : Type) where
  /-- The type by which a handler is chosen. -/
  type : ι → String

/-- Inputs of which those with one key exclude one another. -/
class ExclusiveInput (ι : Type) extends Input ι where
  lockKey : ι → String

inductive HandlerFault where
  | refused (cause : Refusal)
  | wrongInput (type : String)
  deriving Repr, DecidableEq

def HandlerFault.message : HandlerFault → String
  | refused cause => cause.message
  | wrongInput type => s!"handler received unexpected input {type}"

abbrev Handler (ι ο : Type) := ι → Script (Except HandlerFault ο)

/-! ## Failures -/

inductive BusFault where
  | handlerTaken (type : String)
  | noHandler (type : String)
  | wrongHandler (type : String)
  | wrongOutput (type expected : String)
  | handlerFailed (type : String) (cause : Refusal)
  | lockFailed (type : String) (cause : MutexFault)
  deriving Repr, DecidableEq

namespace BusFault

def message : BusFault → String
  | handlerTaken type => s!"bus handler already registered for {type}"
  | noHandler type => s!"bus handler not registered for {type}"
  | wrongHandler type => s!"invalid input {type} provided to handler"
  | wrongOutput type expected =>
      s!"invalid output received from handler for {type}, expected {expected}"
  | handlerFailed type _ => s!"unprocessable bus input {type}"
  | lockFailed type _ => s!"blocking dispatch of {type} failed"

def chain (e : BusFault) : List String :=
  match e with
  | handlerFailed _ cause => [e.message, cause.message]
  | lockFailed _ cause => e.message :: cause.chain
  | _ => [e.message]

def severity : BusFault → Severity
  | handlerFailed _ cause => cause.severity
  | lockFailed _ cause => cause.severity
  | _ => .fatal

def blamesWiring : BusFault → Bool
  | handlerFailed _ _ => false
  | lockFailed _ _ => false
  | _ => true

def followsSuccess : BusFault → Bool
  | lockFailed _ cause => cause.followsSuccess
  | _ => false

def ofHandler (type : String) : HandlerFault → BusFault
  | .refused cause => handlerFailed type cause
  | .wrongInput _ => wrongHandler type

end BusFault

/-! ## Buses -/

/-- The handlers for inputs of each type. -/
structure Bus (ι ο : Type) where
  handlers : Register (Handler ι ο) := {}

namespace Bus

variable {ι ο τ : Type}

def handler? (type : String) (bus : Bus ι ο) : Option (Handler ι ο) :=
  bus.handlers.get? type

def register (type : String) (handler : Handler ι ο) (bus : Bus ι ο) :
    Except BusFault (Bus ι ο) :=
  if (bus.handler? type).isSome then
    .error (.handlerTaken type)
  else
    .ok ⟨bus.handlers.put type handler⟩

/-- The bus with a handler for a type; registering one for a type that has one panics. -/
def registerOrPanic (type : String) (handler : Handler ι ο) (bus : Bus ι ο) : Outcome (Bus ι ο) :=
  match bus.register type handler with
  | .ok bus => .returned bus
  | .error failure => .panicked failure.message

/-- The bus with the first of the handlers given for each type. -/
def ofList (handlers : List (String × Handler ι ο)) : Bus ι ο :=
  handlers.foldl
    (fun bus entry =>
      match bus.register entry.1 entry.2 with
      | .ok bus => bus
      | .error _ => bus)
    {}

def types (bus : Bus ι ο) : List String :=
  bus.handlers.names.mergeSort fun a b => decide (a ≤ b)

/-! ## Dispatch -/

def dispatch [Input ι] (bus : Bus ι ο) (input : ι) : Script (Except BusFault ο) :=
  let type := Input.type input
  match bus.handler? type with
  | none => return .error (.noHandler type)
  | some handler => do
      let result ← handler input
      return result.mapError (.ofHandler type)

def dispatchExpecting [Input ι] (expected : String) (shape : ο → Option τ) (bus : Bus ι ο)
    (input : ι) : Script (Except BusFault τ) := do
  match ← bus.dispatch input with
  | .error failure => return .error failure
  | .ok output =>
      match shape output with
      | some value => return .ok value
      | none => return .error (.wrongOutput (Input.type input) expected)

/-- Passes an input to its handler under the lock for its key. -/
def dispatchExclusively [ExclusiveInput ι] (mutex : Mutex) (bus : Bus ι ο) (input : ι) :
    Script (Except BusFault ο) :=
  let type := Input.type input
  match bus.handler? type with
  | none => return .error (.noHandler type)
  | some handler => do
      match ← mutex.exclusively (ExclusiveInput.lockKey input) (handler input) with
      | .error cause => return .error (.lockFailed type cause)
      | .ok result => return result.mapError (.ofHandler type)

end Bus

end MissionControl
