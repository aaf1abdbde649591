import MissionControl.Json.Value

/-!
# Responses

A response is a status with a JSON body or none.
-/

namespace MissionControl
namespace Http

structure Response where
  status : Nat
  /-- The JSON body; other bodies are not told. -/
  body : Option Json := none

namespace Response

def ok (body : Json) : Response := { status := 200, body := some body }

def head (response : Response) : Response := { response with body := none }

end Response
end Http
end MissionControl
