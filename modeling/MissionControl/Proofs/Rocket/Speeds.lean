import Mathlib.Algebra.Group.Nat.Defs
import Mathlib.Algebra.Ring.Int.Defs
import Mathlib.Order.Bounds.Defs
import MissionControl.Proofs.Event.Changes

/-!
# Speeds

The speed of a rocket adds up the changes that count, and never falls below zero.  It is told in
closed form: either no change was cut off at zero, and the speed is the sum of all of them, or the
last one that was cut off left zero, and the speed is the sum of those after it; the speed is the
greatest of these sums.  The top of what a record can hold is not reached by as many changes as
there can be.
-/

namespace MissionControl

/-! ## Sums with a floor -/

/-- What changes may sum up to: all of them from a start, or from zero those after one of them. -/
def speedSums (start : Int) (changes : List Int) : Set Int :=
  { sum | sum = start + changes.sum ∨
      ∃ j, 1 ≤ j ∧ j ≤ changes.length ∧ sum = (changes.drop j).sum }

/-- The speed after changes of which none leaves less than zero. -/
def floored (start : Int) (changes : List Int) : Int :=
  changes.foldl (fun speed change => max 0 (speed + change)) start

theorem isGreatest_floored (start : Int) (changes : List Int) :
    IsGreatest (speedSums start changes) (floored start changes) := by
  induction changes generalizing start with
  | nil =>
      constructor
      · exact .inl (Int.add_zero start).symm
      · rintro sum (same | ⟨j, first, last, _⟩)
        · rw [same]
          exact Int.le_of_eq (Int.add_zero start)
        · rw [List.length_nil] at last
          omega
  | cons change rest ih =>
      have same : floored start (change :: rest) = floored (max 0 (start + change)) rest := rfl
      rcases ih (max 0 (start + change)) with ⟨mem, above⟩
      have whole := above (.inl rfl)
      rw [same]
      constructor
      · rcases mem with all | ⟨j, first, last, sum⟩
        · rcases Int.le_total (start + change) 0 with below | beyond
          · -- the change is cut off, and only the rest of them counts
            rw [Int.max_eq_left below, Int.zero_add] at all
            exact .inr ⟨1, Nat.le_refl 1, Nat.succ_pos _, by rw [Int.max_eq_left below, all]; rfl⟩
          · rw [Int.max_eq_right beyond] at all
            refine .inl ?_
            rw [Int.max_eq_right beyond, all, List.sum_cons, Int.add_assoc]
        · exact .inr ⟨j + 1, Nat.succ_pos j, Nat.succ_le_succ last, sum⟩
      · rintro sum (all | ⟨j, first, last, after⟩)
        · rw [all, List.sum_cons]
          omega
        · rcases Nat.eq_or_lt_of_le first with one | later
          · rw [after, ← one, List.drop_succ_cons, List.drop_zero]
            omega
          · refine above (.inr ⟨j - 1, by omega, ?_, ?_⟩)
            · rw [List.length_cons] at last
              omega
            · have next : j = (j - 1) + 1 := by omega
              rw [after]
              conv => lhs; rw [next, List.drop_succ_cons]

/-! ## Changes that count -/

namespace Rocket

variable {guard : Guard} {r : Rocket} {change : Change} {changes : List Change}

/-- The speed change that a change makes, if it counts. -/
def gain? (guard : Guard) (r : Rocket) (change : Change) : Option SpeedChange :=
  match change.edit with
  | .speed amount => (r.admitted? guard change).map fun _ => amount
  | _ => none

def gains (guard : Guard) (r : Rocket) : List Change → List SpeedChange
  | [] => []
  | change :: rest => (r.gain? guard change).toList ++ gains guard (r.revise guard change) rest

theorem gains_append (guard : Guard) (r : Rocket) (earlier later : List Change) :
    r.gains guard (earlier ++ later) =
      r.gains guard earlier ++ (r.reviseAll guard earlier).gains guard later := by
  induction earlier generalizing r with
  | nil =>
      rfl
  | cons change rest ih =>
      rw [List.cons_append, gains, gains, ih, List.append_assoc]
      rfl

theorem speed_revise (guard : Guard) (r : Rocket) (change : Change) :
    (r.revise guard change).speed = (r.gain? guard change).elim r.speed (changedSpeed r.speed) := by
  unfold revise gain?
  cases r.admitted? guard change with
  | none =>
      cases change.edit <;> rfl
  | some time =>
      cases change.edit <;> rfl

theorem speed_reviseAll_mem (guard : Guard) (positive : 0 ≤ r.speed) (changes : List Change) :
    0 ≤ (r.reviseAll guard changes).speed ∧
      (r.reviseAll guard changes).speed ≤
        r.speed + (r.gains guard changes).length * speedLimit := by
  induction changes generalizing r with
  | nil =>
      exact ⟨positive, by simp [gains, reviseAll]⟩
  | cons change rest ih =>
      have step := speed_revise guard r change
      rw [reviseAll_cons, gains, List.length_append]
      cases gained : r.gain? guard change with
      | none =>
          rw [gained, Option.elim_none] at step
          rcases ih (step ▸ positive) with ⟨low, high⟩
          rw [step] at high
          simpa using ⟨low, high⟩
      | some amount =>
          rw [gained, Option.elim_some, changedSpeed] at step
          have limit := amount.inRange.2
          rcases ih (r := r.revise guard change) (by omega) with ⟨low, high⟩
          refine ⟨low, ?_⟩
          rw [Option.toList_some, List.length_singleton]
          unfold speedLimit topSpeed at *
          omega

/-- Where the top is out of reach, the speed is the sum of the changes that count. -/
theorem speed_reviseAll (positive : 0 ≤ r.speed)
    (fits : r.speed + (r.gains guard changes).length * speedLimit ≤ topSpeed) :
    (r.reviseAll guard changes).speed =
      floored r.speed ((r.gains guard changes).map (·.value)) := by
  induction changes generalizing r with
  | nil =>
      rfl
  | cons change rest ih =>
      have step := speed_revise guard r change
      rw [gains, List.length_append] at fits
      rw [reviseAll_cons, gains]
      cases gained : r.gain? guard change with
      | none =>
          rw [gained, Option.elim_none] at step
          rw [gained, Option.toList_none, List.length_nil, Nat.zero_add, ← step] at fits
          rw [ih (step ▸ positive) fits, step]
          rfl
      | some amount =>
          have limit := amount.inRange.2
          rw [gained, Option.toList_some, List.length_singleton] at fits
          rw [gained, Option.elim_some] at step
          have floors : changedSpeed r.speed amount = max 0 (r.speed + amount.value) := by
            unfold changedSpeed
            unfold speedLimit topSpeed at *
            omega
          rw [floors] at step
          rw [ih (by omega) (by unfold speedLimit topSpeed at *; omega), step]
          rfl

/-- The speed of a rocket after some changes, as those that count make it. -/
structure SpeedsExactly (guard : Guard) (r : Rocket) (changes : List Change) : Prop where
  /-- No sum is out of the range of a signed number of 64 bits. -/
  unsaturated : ∀ earlier amount time later, changes = earlier ++ ⟨.speed amount, time⟩ :: later →
    ((r.reviseAll guard earlier).admitted? guard ⟨.speed amount, time⟩).isSome = true →
    -topSpeed - 1 ≤ (r.reviseAll guard earlier).speed + amount.value ∧
      (r.reviseAll guard earlier).speed + amount.value ≤ topSpeed
  summed : IsGreatest (speedSums r.speed ((r.gains guard changes).map (·.value)))
    (r.reviseAll guard changes).speed
  bounded : 0 ≤ (r.reviseAll guard changes).speed ∧
    (r.reviseAll guard changes).speed ≤ ((r.gains guard changes).length + 1) * speedLimit

theorem speedsExactly (low : 0 ≤ r.speed) (high : r.speed ≤ speedLimit)
    (few : (r.gains guard changes).length ≤ 9 * 10 ^ 12) : r.SpeedsExactly guard changes := by
  constructor
  case unsaturated =>
    intro earlier amount time later split counted
    have more : (r.gains guard earlier).length ≤ (r.gains guard changes).length := by
      rw [split, gains_append, List.length_append]
      exact Nat.le_add_right _ _
    rcases speed_reviseAll_mem guard low earlier with ⟨floor, reached⟩
    have ranged := amount.inRange
    unfold speedLimit topSpeed at *
    omega
  case summed =>
    rw [speed_reviseAll low (by unfold speedLimit topSpeed at *; omega)]
    exact isGreatest_floored _ _
  case bounded =>
    rcases speed_reviseAll_mem guard low changes with ⟨floor, reached⟩
    refine ⟨floor, ?_⟩
    unfold speedLimit at *
    omega

end Rocket

/-! ## Speed changes by events -/

namespace World

variable {L C : Type} [LockStore L] [ClaimStore C] {guard : Guard} {event : RocketEvent}

/-- What becomes of an event that makes a step, by an amount up or down. -/
structure SpeedHandled (guard : Guard) (event : RocketEvent) (amount step : Int)
    (w : World L C Fleet) : Prop where
  rejected : ¬(0 ≤ amount ∧ amount ≤ speedLimit) → ∃ violation,
    play ((EventHandler.parameters guard).handle event) w =
      (.returned (.error (.refused (.brokenRule violation))), w)
  handled : 0 ≤ amount → amount ≤ speedLimit → ∃ change : SpeedChange, change.value = step ∧
    event.change? = some ⟨.speed change, event.time⟩ ∧
    ∀ r, w.rockets.recordAt event.rocketId = some r → r.isDeleted = false →
      play ((EventHandler.parameters guard).handle event) w = (.returned (.ok ()),
        { w with rockets := w.rockets.save (r.revise guard ⟨.speed change, event.time⟩) })

theorem speedHandled {amount step : Int} (steps : step = amount ∨ step = -amount)
    (changes : event.kind.type = .speedIncreased ∨ event.kind.type = .speedDecreased)
    (edits : event.kind.edit? = (SpeedChange.ofAmount? amount step).map .speed)
    (w : World L C Fleet) : SpeedHandled guard event amount step w := by
  have handler : EventHandler.ofType guard event.kind.type = .parameters guard := by
    rcases changes with up | down
    · rw [up]
      rfl
    · rw [down]
      rfl
  have unlaunched : event.kind.type ≠ .launched := by
    rcases changes with up | down
    · rw [up]
      exact EventType.noConfusion
    · rw [down]
      exact EventType.noConfusion
  constructor
  case rejected =>
    intro unranged
    rw [← handler]
    apply play_handle_of_no_change guard w unlaunched
    rw [RocketEvent.change?, edits, SpeedChange.ofAmount?_of_unranged unranged steps]
    rfl
  case handled =>
    intro positive short
    rcases SpeedChange.exists_of_ranged positive short steps with ⟨change, stepped, value⟩
    have told : event.change? = some ⟨.speed change, event.time⟩ := by
      rw [RocketEvent.change?, edits, stepped]
      rfl
    refine ⟨change, value, told, ?_⟩
    intro r recorded live
    rw [← handler, play_handle_of_change told recorded, live]
    rfl

/--
From its launch on, a rocket has the speed that the changes which count sum up to, exactly and
never below zero, as long as there are no more than nine million million of them.  An event changes
the speed by its amount, or is refused for it; events of the rocket make these changes in turn.
-/
theorem speeds_exactly (guard : Guard) (id : RocketId) (rocketType : RocketType)
    (start : LaunchSpeed) (mission : Mission) (time : Instant) :
    (∀ changes,
        ((Rocket.launch id rocketType start mission time).gains guard changes).length ≤
          9 * 10 ^ 12 →
        (Rocket.launch id rocketType start mission time).SpeedsExactly guard changes) ∧
      (∀ (event : RocketEvent) (amount : Int64) (w : World L C Fleet),
        (event.kind = .speedIncreased amount →
          SpeedHandled guard event amount.toInt amount.toInt w) ∧
        (event.kind = .speedDecreased amount →
          SpeedHandled guard event amount.toInt (-amount.toInt) w)) ∧
      ∀ (events : List RocketEvent) (w : World L C Fleet),
        (∀ event ∈ events, event.rocketId = id.text) →
        w.rockets.recordAt id.text = some (.launch id rocketType start mission time) →
        (w.servedAll guard (events.map .dispatch)).rockets.recordAt id.text =
          some ((Rocket.launch id rocketType start mission time).reviseAll guard
            (events.filterMap RocketEvent.change?)) := by
  refine ⟨?_, ?_, ?_⟩
  · intro changes few
    exact Rocket.speedsExactly start.inRange.1 start.inRange.2 few
  · intro event amount w
    constructor
    · intro kind
      exact speedHandled (.inl rfl) (.inl (congrArg EventKind.type kind))
        (congrArg EventKind.edit? kind) w
    · intro kind
      exact speedHandled (.inr rfl) (.inr (congrArg EventKind.type kind))
        (congrArg EventKind.edit? kind) w
  · intro events w own recorded
    exact recordAt_dispatches guard own recorded

def acceleratedId : RocketId :=
  ⟨acceleration.rocketId, ⟨_, rfl⟩⟩

def atLaunch : Rocket :=
  .launch acceleratedId ⟨"Falcon-9", by decide⟩ ⟨500, by decide⟩ ⟨"ARTEMIS", by decide⟩ .epoch

def speedEvents : List RocketEvent :=
  [acceleration,
    .ofFields (.speedDecreased 5000) acceleration.rocketId 3 (some ⟨1643827206, 0⟩),
    .ofFields (.speedIncreased 1000001) acceleration.rocketId 4 (some ⟨1643827207, 0⟩),
    .ofFields (.speedIncreased 70) acceleration.rocketId 5 (some ⟨1643827206, 0⟩),
    .ofFields (.speedIncreased 40) acceleration.rocketId 6 (some ⟨1643827208, 0⟩)]

theorem speed_from_zero_again :
    (atLaunch.gains .strictlyAfter (speedEvents.filterMap RocketEvent.change?)).map (·.value) =
        [3000, -5000, 40] ∧
      (∀ event ∈ speedEvents, event.rocketId = atLaunch.id.text) ∧
      unchanged.rockets.recordAt atLaunch.id.text = some atLaunch ∧
      ((unchanged.servedAll .strictlyAfter (speedEvents.map .dispatch)).rockets.recordAt
        atLaunch.id.text).map (·.speed) = some 40 ∧
      IsGreatest (speedSums 500 [3000, -5000, 40]) 40 ∧
      SpeedHandled .strictlyAfter acceleration 3000 3000 unchanged := by
  have gained : (atLaunch.gains .strictlyAfter
      (speedEvents.filterMap RocketEvent.change?)).map (·.value) = [3000, -5000, 40] := by
    decide +kernel
  have own : ∀ event ∈ speedEvents, event.rocketId = atLaunch.id.text := by
    decide +kernel
  have recorded : unchanged.rockets.recordAt atLaunch.id.text = some atLaunch := by
    decide +kernel
  have speed : (atLaunch.reviseAll .strictlyAfter
      (speedEvents.filterMap RocketEvent.change?)).speed = 40 := by
    decide +kernel
  rcases @speeds_exactly AnyLocks ClaimRecords _ _ .strictlyAfter acceleratedId
    ⟨"Falcon-9", by decide⟩ ⟨500, by decide⟩ ⟨"ARTEMIS", by decide⟩ .epoch with
    ⟨exactly, handled, served⟩
  have few : (atLaunch.gains .strictlyAfter
      (speedEvents.filterMap RocketEvent.change?)).length ≤ 9 * 10 ^ 12 := by
    decide +kernel
  have summed : IsGreatest
      (speedSums 500 ((atLaunch.gains .strictlyAfter
        (speedEvents.filterMap RocketEvent.change?)).map (·.value)))
      (atLaunch.reviseAll .strictlyAfter (speedEvents.filterMap RocketEvent.change?)).speed :=
    (exactly _ few).summed
  rw [gained, speed] at summed
  have stored := served speedEvents unchanged own recorded
  exact ⟨gained, own, recorded,
    (congrArg (Option.map (·.speed)) stored).trans (congrArg some speed), summed,
    (handled acceleration 3000 unchanged).1 rfl⟩

end World
end MissionControl
