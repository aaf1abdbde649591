import MissionControl.Rocket.Basic

/-!
# Sort keys

The order in which rockets are listed: by one of three fields, up or down.  A token that names no
field leaves the rockets in the order of their identifiers.
-/

namespace MissionControl

inductive SortField where
  | createdAt
  | updatedAt
  | launchSpeed
  /-- The order in which records are kept. -/
  | identifier
  deriving Repr, DecidableEq

namespace SortField

/-- The field that has the name; any other name stands for the identifier. -/
def parse (name : String) : SortField :=
  if name = "created_at" then createdAt
  else if name = "updated_at" then updatedAt
  else if name = "launch_speed" then launchSpeed
  else identifier

def le (field : SortField) (a b : Rocket) : Bool :=
  match field with
  | createdAt => decide (a.createdAt ≤ b.createdAt)
  | updatedAt => decide (a.updatedAt ≤ b.updatedAt)
  | launchSpeed => decide (a.speed ≤ b.speed)
  | identifier => true

end SortField

structure SortKey where
  field : SortField
  ascending : Bool
  deriving Repr, DecidableEq

namespace SortKey

/-- Reads a token; a leading minus turns the order round. -/
def parse (token : String) : SortKey :=
  match token.toList with
  | '-' :: name => { field := .parse (String.ofList name), ascending := false }
  | _ => { field := .parse token, ascending := true }

def defaultToken : String := "-created_at"

instance : Inhabited SortKey :=
  ⟨parse defaultToken⟩

def le (key : SortKey) (a b : Rocket) : Bool :=
  if key.ascending then key.field.le a b else key.field.le b a

/-- The rockets in the order of the key; rockets that it does not tell apart keep their order. -/
def sort (key : SortKey) (rockets : List Rocket) : List Rocket :=
  rockets.mergeSort key.le

end SortKey

end MissionControl
