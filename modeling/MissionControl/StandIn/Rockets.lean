import MissionControl.Fleet

/-!
# Rocket stores that stand in for a real one

A store that is out of reach, one that cannot save, and one that panics on saving.
-/

namespace MissionControl

inductive AnyRockets where
  | fleet (fleet : Fleet)
  /-- Every call fails. -/
  | unreachable
  /-- Nothing can be saved. -/
  | full (fleet : Fleet)
  /-- Saving panics. -/
  | explosive (fleet : Fleet)
  deriving DecidableEq

namespace AnyRockets

def contents : AnyRockets → Except Refusal Fleet
  | fleet rockets => .ok rockets
  | unreachable => .error (.storeFailed "connection refused")
  | full rockets => .ok rockets
  | explosive rockets => .ok rockets

instance : RocketStore AnyRockets where
  find id store := store.contents.bind (Fleet.find id)
  isKnown id store := store.contents.map (Fleet.isKnown id)
  listing key store := store.contents.map (Fleet.listing key)
  save r
    | fleet rockets => (.returned (.ok ()), fleet (rockets.save r))
    | unreachable => (.returned (.error (.storeFailed "connection refused")), unreachable)
    | full rockets => (.returned (.error (.storeFailed "disk full")), full rockets)
    | explosive rockets => (.panicked "store blew up", explosive rockets)

end AnyRockets

end MissionControl
