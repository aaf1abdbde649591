import MissionControl.Bus

/-!
# Queries

Asking for one rocket or for all of them.  Queries change nothing and take no locks.
-/

namespace MissionControl

inductive RocketQuery where
  | byId (id : String)
  | search (key : SortKey)
  deriving Repr, DecidableEq

namespace RocketQuery

def byIdType : String := "find_rocket_by_id_query"

def searchType : String := "search_rockets_query"

instance : Input RocketQuery where
  type
    | byId _ => byIdType
    | search _ => searchType

end RocketQuery

/-- What is shown of a live rocket. -/
structure RocketView where
  id : String
  rocketType : String
  speed : Int
  mission : String
  createdAt : Instant
  updatedAt : Instant
  deriving Repr, DecidableEq

def Rocket.view (r : Rocket) : RocketView :=
  { id := r.id.text, rocketType := r.rocketType.text, speed := r.speed, mission := r.mission.text
    createdAt := r.createdAt, updatedAt := r.updatedAt }

inductive QueryAnswer where
  | rocket (view : RocketView)
  | rockets (views : List RocketView)
  deriving Repr, DecidableEq

namespace QueryAnswer

def rocket? : QueryAnswer → Option RocketView
  | rocket view => some view
  | rockets _ => none

def rockets? : QueryAnswer → Option (List RocketView)
  | rocket _ => none
  | rockets views => some views

end QueryAnswer

inductive QueryHandler where
  | finding
  | searching
  deriving Repr, DecidableEq

namespace QueryHandler

def handle : QueryHandler → Handler RocketQuery QueryAnswer
  | finding, .byId id =>
      match RocketId.parse id with
      | .error violation => return .error (.refused (.brokenRule violation))
      | .ok id => do
          match ← Script.perform (.findRocket id) with
          | .error cause => return .error (.refused cause)
          | .ok r => return .ok (.rocket r.view)
  | searching, .search key => do
      match ← Script.perform (.listRockets key) with
      | .error cause => return .error (.refused cause)
      | .ok rockets => return .ok (.rockets (rockets.map Rocket.view))
  | _, query => return .error (.wrongInput (Input.type query))

end QueryHandler

abbrev QueryBus := Bus RocketQuery QueryAnswer

namespace QueryBus

def ofHandlers (handlers : List (String × QueryHandler)) : QueryBus :=
  .ofList (handlers.map fun entry => (entry.1, entry.2.handle))

def full : QueryBus :=
  ofHandlers [(RocketQuery.byIdType, .finding), (RocketQuery.searchType, .searching)]

def one (bus : QueryBus) (query : RocketQuery) : Script (Except BusFault RocketView) :=
  bus.dispatchExpecting "<type>" QueryAnswer.rocket? query

def many (bus : QueryBus) (query : RocketQuery) : Script (Except BusFault (List RocketView)) :=
  bus.dispatchExpecting "<type>" QueryAnswer.rockets? query

end QueryBus

end MissionControl
