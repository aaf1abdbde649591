import MissionControl.Http.Failure
import MissionControl.Http.Target
import MissionControl.Query
import MissionControl.Settings

/-!
# The service

Four paths are served: a check of health, the list of rockets, a single rocket, and the messages
that are delivered.  Reading goes through the query bus, and deliveries are processed.
-/

namespace MissionControl

/-! ## Views -/

def RocketView.toJson (view : RocketView) : Json :=
  .object [("id", .text view.id), ("type", .text view.rocketType),
    ("launch_speed", .integer view.speed), ("mission", .text view.mission),
    ("created_at", .text view.createdAt.text), ("updated_at", .text view.updatedAt.text)]

/-- What answers requests. -/
structure Service where
  processor : Processor
  queries : QueryBus

namespace Service

def ofSettings (settings : Settings) : Service :=
  { processor := {
      bus := .full settings.guard
      mutex := settings.mutex
      retention := settings.retention }
    queries := .full }

end Service

namespace Http

/-! ## Requests -/

structure Request where
  method : String
  target : Target
  body : Bytes := []

inductive Route where
  | health
  | messages
  | rockets
  /-- One rocket, with the part of the path that names it. -/
  | rocket (name : Bytes)
  deriving Repr, DecidableEq

namespace Route

def rocketsRoot : Bytes := Text.bytes "/rockets/"

def ofPath? (path : Bytes) : Option Route :=
  if path = Text.bytes "/health" then some health
  else if path = Text.bytes "/messages" then some messages
  else if path = Text.bytes "/rockets" then some rockets
  else if path.take rocketsRoot.length = rocketsRoot then
    let name := path.drop rocketsRoot.length
    if name.isEmpty || name.contains 0x2f then none else some (rocket name)
  else none

/-- Whether a method can be used on a path; a body can be left out wherever there is one to get. -/
def allows (route : Route) (method : String) : Bool :=
  match route with
  | messages => method = "POST"
  | _ => method = "GET" || method = "HEAD"

end Route

/-! ## Answering -/

def version : String := "0.1.0"

def bodyLimit : Nat := 2097152

/-- The token by which rockets are to be sorted, if the query names one; it may do so once. -/
def sortToken (target : Target) : Except Response (Option String) :=
  match target.parameters.filter fun parameter => parameter.1 = "sort" with
  | [] => .ok none
  | [(_, token)] => .ok (some token)
  | _ => .error { status := 400 }

def answered {α : Type} (toJson : α → Json) : Except BusFault α → Response
  | .ok value => .ok (toJson value)
  | .error cause => Failure.response (.query cause)

def answer (service : Service) (request : Request) : Route → Script Response
  | .health => return .ok (.object [("status", .text "ok"), ("version", .text version)])
  | .messages =>
      if bodyLimit < request.body.length then
        return { status := 413 }
      else do
        match ← service.processor.deliver request.body .pending with
        | (.ok _, _) => return { status := 204 }
        | (.error cause, _) => return Failure.response (.processing cause)
  | .rockets =>
      match sortToken request.target with
      | .error response => return response
      | .ok token => do
          let key := (token.map SortKey.parse).getD default
          let result ← service.queries.many (.search key)
          return answered (fun views => .array (views.map RocketView.toJson)) result
  | .rocket name =>
      match Text.utf8? (percentDecode name) with
      | none => return { status := 400 }
      | some id => do
          let result ← service.queries.one (.byId id)
          return answered RocketView.toJson result

def respond (service : Service) (request : Request) : Script Response :=
  match Route.ofPath? request.target.path with
  | none => return { status := 404 }
  | some route =>
      if route.allows request.method then do
        let response ← answer service request route
        return if request.method = "HEAD" then response.head else response
      else
        return { status := 405 }

end Http
end MissionControl
