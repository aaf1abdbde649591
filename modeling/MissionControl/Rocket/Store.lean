import MissionControl.Outcome
import MissionControl.Rocket.SortKey

/-!
# Stores of rockets

What the service asks of the store that keeps its rockets.
-/

namespace MissionControl

/-- The calls on a store of rockets, as functions on its state. -/
class RocketStore (σ : Type) where
  /-- The live rocket under an identifier. -/
  find : RocketId → σ → Except Refusal Rocket
  /-- Whether there is a record under an identifier, live or not. -/
  isKnown : RocketId → σ → Except Refusal Bool
  /-- The live rockets in the order of a key. -/
  listing : SortKey → σ → Except Refusal (List Rocket)
  /-- Puts a record in the place of the one with its identifier. -/
  save : Rocket → σ → Outcome (Except Refusal Unit) × σ

end MissionControl
