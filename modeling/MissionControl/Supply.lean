/-!
# Supplies

Values without end, taken one at a time: the readings of a clock, the random numbers of a machine.
-/

namespace MissionControl

/-- An endless supply of values, the next one first. -/
abbrev Supply (α : Type) := Nat → α

namespace Supply

variable {α : Type}

def always (value : α) : Supply α := fun _ => value

def first (s : Supply α) : α := s 0

def after (s : Supply α) : Supply α := fun n => s (n + 1)

@[simp]
theorem first_always (value : α) : (always value).first = value := rfl

@[simp]
theorem after_always (value : α) : (always value).after = always value := rfl

end Supply

end MissionControl
