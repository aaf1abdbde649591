/-!
# Severity

How bad a failure is, from a refusal that the sender can mend to one that leaves shared state in
doubt.  Severities are ordered, and everything from `fatal` up calls for an operator.
-/

namespace MissionControl

/-- The four levels, mildest first. -/
inductive Severity where
  | info
  | warning
  | fatal
  | critical
  deriving Repr, DecidableEq, Inhabited

namespace Severity

def rank : Severity → Nat
  | info => 0
  | warning => 1
  | fatal => 2
  | critical => 3

instance : LE Severity :=
  ⟨fun a b => a.rank ≤ b.rank⟩

instance : DecidableRel ((· ≤ ·) : Severity → Severity → Prop) :=
  fun a b => Nat.decLe a.rank b.rank

def isFatal (s : Severity) : Bool :=
  decide (fatal ≤ s)

def name : Severity → String
  | info => "info"
  | warning => "warning"
  | fatal => "fatal"
  | critical => "critical"

def sorted (levels : List Severity) : List Severity :=
  levels.mergeSort fun a b => decide (a ≤ b)

end Severity

end MissionControl
