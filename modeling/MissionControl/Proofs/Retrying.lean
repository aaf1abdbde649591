import Mathlib.Algebra.Order.Ring.Rat
import Mathlib.Tactic.Linarith
import MissionControl.Proofs.Lock.Attempts
import MissionControl.Proofs.Rocket.History

/-!
# Retrying

How an operation that is retried takes its course: attempts that fail, each followed by one pause,
and a last attempt, which says what the whole comes to.  There are never more attempts than the
plan allows, and a pause is off the delay by no more than the jitter.
-/

namespace MissionControl

/-! ## Jitter -/

namespace Binary64

def InUnit (x : Binary64) : Prop := le (zero false) x ∧ le x one

instance (x : Binary64) : Decidable x.InUnit :=
  inferInstanceAs (Decidable (_ ∧ _))

theorem InUnit.units_nonneg {x : Binary64} (h : x.InUnit) : 0 ≤ x.units := by
  have lower := h.1
  simp only [le, Bool.and_eq_true, decide_eq_true_eq] at lower
  exact lower.2

theorem InUnit.clampToUnit_eq {x : Binary64} (h : x.InUnit) : x.clampToUnit = x := by
  have upper := h.2
  simp only [le, Bool.and_eq_true, decide_eq_true_eq] at upper
  rw [clampToUnit, if_neg upper.1.1, if_neg (not_lt.mpr h.units_nonneg),
    if_neg (not_lt.mpr upper.2)]

theorem toRat_nonneg {x : Binary64} (h : 0 ≤ x.units) : 0 ≤ x.toRat := by
  cases x with
  | finite negative significand exponent =>
      apply Rat.mkRat_nonneg
      cases negative with
      | false =>
          exact Int.natCast_nonneg _
      | true =>
          -- only zero carries a sign and is not below zero
          have small : significand * Nat.pow 2 (exponent - leastExponent).toNat = 0 := by
            simp only [units, withSign, if_true] at h
            omega
          have nothing : significand = 0 :=
            (Nat.mul_eq_zero.mp small).resolve_right (Nat.pow_pos Nat.two_pos).ne'
          rw [nothing, scaledDown]
          split <;> simp [withSign]
  | infinite negative =>
      exact le_refl 0
  | nan =>
      exact le_refl 0

end Binary64

/-! ## Pauses -/

namespace RetryPlan

theorem spread_eq {p : RetryPlan} (jitter : p.jitter.InUnit) : p.spread = p.jitter.toRat := by
  rw [spread, jitter.clampToUnit_eq]

theorem spread_nonneg {p : RetryPlan} (jitter : p.jitter.InUnit) : 0 ≤ p.spread := by
  rw [spread_eq jitter]
  exact Binary64.toRat_nonneg jitter.units_nonneg

/-- A length of a pause that the delay and the jitter of a plan allow. -/
def Allows (p : RetryPlan) (nanoseconds : Rat) : Prop :=
  p.delay.nanoseconds * (1 - p.jitter.toRat) ≤ nanoseconds ∧
    nanoseconds ≤ p.delay.nanoseconds * (1 + p.jitter.toRat)

theorem Allows.eq_delay {p : RetryPlan} {nanoseconds : Rat} (h : p.Allows nanoseconds)
    (still : p.jitter.toRat = 0) : nanoseconds = p.delay.nanoseconds := by
  rcases h with ⟨lower, upper⟩
  rw [still, sub_zero, mul_one] at lower
  rw [still, add_zero, mul_one] at upper
  exact le_antisymm upper lower

theorem allows_wait {p : RetryPlan} (jitter : p.jitter.InUnit) (x : Deviation) :
    p.Allows (p.wait x) := by
  have length : (0 : Rat) ≤ p.delay.nanoseconds := Nat.cast_nonneg _
  have spread := spread_nonneg jitter
  rw [Allows, wait, ← spread_eq jitter]
  constructor
  · apply mul_le_mul_of_nonneg_left _ length
    have below := mul_le_mul_of_nonneg_left x.2.1 spread
    linarith
  · apply mul_le_mul_of_nonneg_left _ length
    have above := mul_le_mul_of_nonneg_left x.2.2 spread
    linarith

theorem allows_delay {p : RetryPlan} (jitter : p.jitter.InUnit) :
    p.Allows p.delay.nanoseconds := by
  have undisturbed := allows_wait jitter default
  have nothing : ((default : Deviation) : Rat) = 0 := rfl
  rwa [wait, nothing, mul_zero, add_zero, mul_one] at undisturbed

end RetryPlan

namespace World

variable {L C R ε α : Type} [LockStore L] [ClaimStore C] [RocketStore R]

theorem calls_pause {p : RetryPlan} (jitter : p.jitter.InUnit) (w : World L C R) :
    ∃ nanoseconds, p.Allows nanoseconds ∧
      ((moments p.pause w).map (fun m => m.call) = [.pause nanoseconds] ∨
        (moments p.pause w).map (fun m => m.call) = [.draw, .pause nanoseconds]) := by
  unfold RetryPlan.pause
  split
  · exact ⟨p.delay.nanoseconds, RetryPlan.allows_delay jitter, .inl rfl⟩
  · exact ⟨p.wait w.draws.first, RetryPlan.allows_wait jitter _, .inr rfl⟩

theorem play_pause_returned (p : RetryPlan) (w : World L C R) :
    play p.pause w = (.returned (), (play p.pause w).2) := by
  rcases play_pause p w with ⟨rested, paused⟩
  rw [paused]

/-! ## Attempts -/

section

variable (p : RetryPlan) (operation : Nat → Script (Except ε α))

def Fails (number : Nat) (w : World L C R) : Prop :=
  ∃ cause, (play (operation number) w).1 = .returned (.error cause)

def paused (number : Nat) (w : World L C R) : World L C R :=
  (play p.pause (play (operation number) w).2).2

def pausedAll : (number failures : Nat) → World L C R → World L C R
  | _, 0, w => w
  | number, failures + 1, w => pausedAll (number + 1) failures (paused p operation number w)

def round (number : Nat) (w : World L C R) : List (Moment L C R) :=
  moments (operation number) w ++ moments p.pause (play (operation number) w).2

def rounds (number failures : Nat) (w : World L C R) : List (Moment L C R) :=
  (List.range failures).flatMap fun n =>
    round p operation (number + n) (pausedAll p operation number n w)

theorem rounds_succ (number failures : Nat) (w : World L C R) :
    rounds p operation number (failures + 1) w =
      round p operation number w ++
        rounds p operation (number + 1) failures (paused p operation number w) := by
  have shifted : (fun n => round p operation (number + (n + 1))
      (pausedAll p operation number (n + 1) w)) =
        fun n => round p operation (number + 1 + n)
          (pausedAll p operation (number + 1) n (paused p operation number w)) := by
    funext n
    rw [pausedAll, Nat.add_right_comm, Nat.add_assoc]
  rw [rounds, List.range_succ_eq_map, List.flatMap_cons, List.flatMap_map]
  exact congrArg (fun each => round p operation number w ++ (List.range failures).flatMap each)
    shifted

/--
What becomes of an operation with some attempts left after the one with a given number: as many
attempts fail as are told, and the next one is the last.
-/
structure Retried (left number : Nat) (w : World L C R) (failures : Nat) : Prop where
  le_left : failures ≤ left
  fails : ∀ n < failures, Fails operation (number + n) (pausedAll p operation number n w)
  ends : Fails operation (number + failures) (pausedAll p operation number failures w) →
    failures = left
  result : play (p.attemptFrom operation left number) w =
    play (operation (number + failures)) (pausedAll p operation number failures w)
  made : moments (p.attemptFrom operation left number) w =
    rounds p operation number failures w ++
      moments (operation (number + failures)) (pausedAll p operation number failures w)

end

variable {p : RetryPlan} {operation : Nat → Script (Except ε α)} {left number failures : Nat}
  {w : World L C R}

theorem returned_or_panicked_of_not_fails (final : ¬ Fails operation number w) :
    (∃ value after, play (operation number) w = (.returned (.ok value), after)) ∨
      ∃ message after, play (operation number) w = (.panicked message, after) := by
  cases come : play (operation number) w with
  | mk outcome after =>
      cases outcome with
      | panicked message =>
          exact .inr ⟨message, after, rfl⟩
      | returned result =>
          cases result with
          | ok value =>
              exact .inl ⟨value, after, rfl⟩
          | error cause =>
              exact absurd ⟨cause, congrArg Prod.fst come⟩ final

theorem attemptFrom_of_not_fails (final : ¬ Fails operation number w) (left : Nat) :
    play (p.attemptFrom operation left number) w = play (operation number) w ∧
      moments (p.attemptFrom operation left number) w = moments (operation number) w := by
  cases left with
  | zero =>
      exact ⟨rfl, rfl⟩
  | succ left =>
      rw [RetryPlan.attemptFrom_succ]
      rcases returned_or_panicked_of_not_fails final with
        ⟨value, after, come⟩ | ⟨message, after, come⟩
      · rw [play_bind_of_returned come, moments_bind_of_returned come, come]
        exact ⟨rfl, List.append_nil _⟩
      · rw [play_bind_of_panicked come, moments_bind, come]
        exact ⟨rfl, List.append_nil _⟩

namespace Retried

theorem spent (number : Nat) (w : World L C R) : Retried p operation 0 number w 0 where
  le_left := Nat.le_refl 0
  fails n early := absurd early (Nat.not_lt_zero n)
  ends _ := rfl
  result := rfl
  made := rfl

theorem settled (final : ¬ Fails operation number w) :
    Retried p operation left number w 0 where
  le_left := Nat.zero_le left
  fails n early := absurd early (Nat.not_lt_zero n)
  ends failed := absurd failed final
  result := (attemptFrom_of_not_fails final left).1
  made := (attemptFrom_of_not_fails final left).2

theorem after_failure (failed : Fails operation number w)
    (later : Retried p operation left (number + 1) (paused p operation number w) failures) :
    Retried p operation (left + 1) number w (failures + 1) := by
  rcases failed with ⟨cause, outcome⟩
  have first : play (operation number) w =
      (.returned (.error cause), (play (operation number) w).2) := Prod.ext outcome rfl
  have rested := play_pause_returned p (play (operation number) w).2
  have shift (n : Nat) : number + (n + 1) = number + 1 + n := by omega
  refine ⟨Nat.succ_le_succ later.le_left, fun n early => ?_, fun failed => ?_, ?_, ?_⟩
  · cases n with
    | zero =>
        exact ⟨cause, outcome⟩
    | succ n =>
        rw [shift n]
        exact later.fails n (Nat.lt_of_succ_lt_succ early)
  · rw [shift failures] at failed
    exact congrArg Nat.succ (later.ends failed)
  · rw [RetryPlan.attemptFrom_succ, play_bind_of_returned first, play_bind_of_returned rested,
      shift failures]
    exact later.result
  · rw [RetryPlan.attemptFrom_succ, moments_bind_of_returned first,
      moments_bind_of_returned rested, rounds_succ, shift failures, List.append_assoc,
      ← List.append_assoc]
    exact congrArg (round p operation number w ++ ·) later.made

end Retried

theorem exists_retried (p : RetryPlan) (operation : Nat → Script (Except ε α))
    (left number : Nat) (w : World L C R) :
    ∃ failures, Retried p operation left number w failures := by
  induction left generalizing number w with
  | zero =>
      exact ⟨0, .spent number w⟩
  | succ left ih =>
      by_cases failed : Fails operation number w
      · rcases ih (number + 1) (paused p operation number w) with ⟨failures, later⟩
        exact ⟨failures + 1, .after_failure failed later⟩
      · exact ⟨0, .settled failed⟩

/--
A retried operation is called once, and then once more after each failure and a pause, until a call
does not fail or the attempts are spent; the last call says what the whole comes to.  There is one
pause between two calls and none after the last, each off the delay by no more than the jitter, and
the number of the attempt stays below `2 ^ 32`.
-/
theorem retry_exactly (p : RetryPlan) (operation : Nat → Script (Except ε α)) (w : World L C R)
    (counted : p.attempts < 2 ^ 32) (jitter : p.jitter.InUnit) :
    ∃ failures, 1 + failures ≤ max p.attempts 1 ∧ 1 + failures < 2 ^ 32 ∧
      (∀ n < failures, Fails operation (1 + n) (pausedAll p operation 1 n w)) ∧
      (Fails operation (1 + failures) (pausedAll p operation 1 failures w) →
        1 + failures = max p.attempts 1) ∧
      play (p.retry operation) w =
        play (operation (1 + failures)) (pausedAll p operation 1 failures w) ∧
      moments (p.retry operation) w =
        rounds p operation 1 failures w ++
          moments (operation (1 + failures)) (pausedAll p operation 1 failures w) ∧
      ∀ v : World L C R, ∃ nanoseconds, p.Allows nanoseconds ∧
        (p.jitter.toRat = 0 → nanoseconds = p.delay.nanoseconds) ∧
        ((moments p.pause v).map (fun m => m.call) = [.pause nanoseconds] ∨
          (moments p.pause v).map (fun m => m.call) = [.draw, .pause nanoseconds]) := by
  rcases exists_retried p operation (p.limit - 1) 1 w with ⟨failures, retried⟩
  have made := retried.le_left
  have limit : p.limit = max p.attempts 1 := rfl
  refine ⟨failures, by omega, by omega, retried.fails, fun failed => ?_, retried.result,
    retried.made, fun v => ?_⟩
  · have all := retried.ends failed
    omega
  · rcases calls_pause jitter v with ⟨nanoseconds, allowed, calls⟩
    exact ⟨nanoseconds, allowed, allowed.eq_delay, calls⟩

def threefold : RetryPlan := { attempts := 3, jitter := .ofDecimal false 5 (-1) }

def failing (number : Nat) : Script (Except Nat Unit) := .done (.error number)

theorem threefold_fails : threefold.attempts < 2 ^ 32 ∧ threefold.jitter.InUnit ∧
    (play (threefold.retry failing) unlaunched).1 = .returned (.error 3) ∧
    ∃ nanoseconds : Rat, 125000000 ≤ nanoseconds ∧ nanoseconds ≤ 375000000 ∧
      Call.pause nanoseconds ∈ (moments threefold.pause unlaunched).map fun m => m.call := by
  have counted : threefold.attempts < 2 ^ 32 := by decide
  have jitter : threefold.jitter.InUnit := by decide +kernel
  rcases retry_exactly threefold failing unlaunched counted jitter with
    ⟨failures, _, _, _, ends, result, _, pauses⟩
  have spent : 1 + failures = 3 := ends ⟨_, rfl⟩
  have half : threefold.jitter.toRat = 1 / 2 := by decide +kernel
  rcases pauses unlaunched with ⟨nanoseconds, ⟨lower, upper⟩, _, calls⟩
  have length : (threefold.delay.nanoseconds : Rat) = 250000000 := rfl
  rw [half, length] at lower upper
  refine ⟨counted, jitter, ?_, nanoseconds, by linarith, by linarith, ?_⟩
  · rw [result, spent]
    rfl
  · rcases calls with only | drawn
    · rw [only]
      exact List.mem_singleton_self _
    · rw [drawn]
      exact List.mem_cons_of_mem _ (List.mem_singleton_self _)

end World
end MissionControl
