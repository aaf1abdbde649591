/-!
# Outcomes

A step of the service either returns a value or panics with a message.  A panic unwinds to the
task it happens in, and whoever waits for the task sees the message.
-/

namespace MissionControl

/-- What comes of a step that may panic. -/
inductive Outcome (α : Type) where
  | returned (value : α)
  | panicked (message : String)
  deriving Repr, DecidableEq

namespace Outcome

instance {α : Type} [Inhabited α] : Inhabited (Outcome α) :=
  ⟨.returned default⟩

def map {α β : Type} (f : α → β) : Outcome α → Outcome β
  | returned value => .returned (f value)
  | panicked message => .panicked message

end Outcome

end MissionControl
