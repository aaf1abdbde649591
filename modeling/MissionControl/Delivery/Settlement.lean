/-!
# Settlement

A delivery is pending until it is settled, once and for all: acknowledged, so that the sender need
not deliver again, or refused, so that it may.  Handles on deliveries may be copied; copies settle
the same delivery.
-/

namespace MissionControl

/-! ## One delivery -/

inductive Settlement where
  | pending
  | acknowledged
  | refused
  deriving Repr, DecidableEq, Inhabited

namespace Settlement

def name : Settlement → String
  | pending => "pending"
  | acknowledged => "acked"
  | refused => "nacked"

def isSettled (s : Settlement) : Bool := decide (s ≠ pending)

def settle (s verdict : Settlement) : Settlement :=
  if s.isSettled then s else verdict

theorem settle_settle {s verdict other : Settlement} (h : verdict.isSettled = true) :
    (s.settle verdict).settle other = s.settle verdict := by
  cases s <;> simp_all [settle, isSettled]

end Settlement

/-! ## Handles -/

/-- Deliveries and the handles on them. -/
structure Deliveries where
  settlements : List Settlement := [.pending]
  /-- For each handle the delivery that it is on. -/
  handles : List Nat := [0]
  deriving Repr, DecidableEq

namespace Deliveries

instance : Inhabited Deliveries :=
  ⟨{}⟩

def delivery (handle : Nat) (d : Deliveries) : Nat := d.handles.getD handle 0

def state (handle : Nat) (d : Deliveries) : Settlement :=
  d.settlements.getD (d.delivery handle) .pending

def settle (handle : Nat) (verdict : Settlement) (d : Deliveries) : Bool × Deliveries :=
  (!(d.state handle).isSettled,
    { d with
      settlements := d.settlements.modify (d.delivery handle) fun s => s.settle verdict })

def copy (handle : Nat) (d : Deliveries) : Deliveries :=
  { d with handles := d.handles ++ [d.delivery handle] }

def add (d : Deliveries) : Deliveries :=
  { settlements := d.settlements ++ [.pending]
    handles := d.handles ++ [d.settlements.length] }

/--
Waits for the delivery of a handle to be settled, for longer than it takes to settle it with the
verdict, if there is one; nothing if it is still pending then.
-/
def await (handle : Nat) (verdict : Option Settlement) (d : Deliveries) :
    Option Settlement × Deliveries :=
  let d := match verdict with
    | some verdict => (d.settle handle verdict).2
    | none => d
  let s := d.state handle
  (if s.isSettled then some s else none, d)

end Deliveries

end MissionControl
