import MissionControl.Claim.Store
import MissionControl.Lock.Store
import MissionControl.Number.Reading

/-!
# Shared stores

Instances of the service can share their locks and claims through a Redis server.  Its address is
a URL, and one that is no address is refused before anything is connected.
-/

namespace MissionControl

/-- The address of a Redis server and the number of a database on it. -/
structure SharedStore where
  host : String
  tcpPort : Nat := 6379
  database : Nat := 0
  deriving Repr, DecidableEq

namespace SharedStore

def scheme : List Char := "redis://".toList

def isHostChar (c : Char) : Bool :=
  c.isAlphanum || c = '.' || c = '-' || c = '_'

def database? (path : List Char) : Option Nat :=
  match path with
  | [] => some 0
  | [_] => some 0
  | _ :: number => (Number.parseUnsigned 9223372036854775807 (String.ofList number)).toOption

/-- The number that follows a host after a colon; it has no sign. -/
def tcpPort? (text : List Char) : Option Nat :=
  match text with
  | [] => some 6379
  | _ :: number =>
      if number.head? = some '+' then none
      else (Number.parseUnsigned 65535 (String.ofList number)).toOption

def parse (url : String) : Option SharedStore :=
  let text := url.toList
  if text.take scheme.length = scheme then do
    let authority := (text.drop scheme.length).takeWhile (· ≠ '/')
    let path := (text.drop scheme.length).dropWhile (· ≠ '/')
    let host := authority.takeWhile (· ≠ ':')
    let tcpPort ← tcpPort? (authority.dropWhile (· ≠ ':'))
    let database ← database? path
    if host.isEmpty || host.any fun c => !isHostChar c then
      none
    else
      some { host := String.ofList host, tcpPort := tcpPort, database := database }
  else
    none

def refusal : String := "failed to create Redis client"

def forLocks (url : String) : Except LockFault SharedStore :=
  match parse url with
  | some store => .ok store
  | none => .error (.storeFailed refusal)

def forClaims (url : String) : Except ClaimFault SharedStore :=
  match parse url with
  | some store => .ok store
  | none => .error (.storeFailed refusal)

end SharedStore

end MissionControl
