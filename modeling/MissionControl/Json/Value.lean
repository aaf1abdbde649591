import MissionControl.Number.Binary64

/-!
# JSON values

The values of JSON texts.  A number is an integer if it is written as one and fits 64 bits, and a
double precision number otherwise.  The members of an object that was read are in the order of
their keys, one for each key.
-/

namespace MissionControl

inductive Json where
  | null
  | bool (value : Bool)
  | integer (value : Int)
  | float (value : Binary64)
  | text (value : String)
  | array (items : List Json)
  | object (members : List (String × Json))
  deriving Repr

namespace Json

instance : Inhabited Json :=
  ⟨null⟩

def put (key : String) (value : Json) : List (String × Json) → List (String × Json)
  | [] => [(key, value)]
  | (k, v) :: rest =>
      if key < k then
        (key, value) :: (k, v) :: rest
      else if key = k then
        (key, value) :: rest
      else
        (k, v) :: put key value rest

/-- The object with the members, the later of two with one key winning. -/
def ofMembers (members : List (String × Json)) : Json :=
  .object (members.foldl (fun sorted member => put member.1 member.2 sorted) [])

end Json

end MissionControl
