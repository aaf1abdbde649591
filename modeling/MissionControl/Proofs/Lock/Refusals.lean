import MissionControl.Proofs.Lock.Ownership
import MissionControl.Proofs.World.Moments

/-!
# Locks that are not granted

Asking for a lock and not getting it leaves no trace: every later request, about whichever lock, is
answered as if that one had not been made.  The exception is a free lock that is asked for until a
time that cannot be told.  That breaks the store, and every later request fails.
-/

namespace MissionControl
namespace Leases

variable {leases : Leases} {name : String} {token : Token} {expiry : Duration} {now : Instant}
  {reading : Outcome Instant}

/-! ## Broken stores -/

def brokenReply : LeaseRequest → LockReply
  | .acquire _ _ expiry =>
      .now (.error (if Instant.longestShift < expiry.nanoseconds then invalidExpiry else broken))
  | _ => .now (.error broken)

theorem serve_of_broken (h : leases.isBroken = true) (now : Instant) (request : LeaseRequest) :
    leases.serve now request = (brokenReply request, leases) := by
  cases request with
  | acquire name token expiry =>
      by_cases long : Instant.longestShift < expiry.nanoseconds
      · simp [serve, acquire, brokenReply, long]
      · simp [serve, acquire, brokenReply, long, h]
  | release name token =>
      simp [serve, release, brokenReply, h]
  | isHeld name =>
      simp [serve, isHeld, brokenReply, h]

/-- A broken store stays broken, whatever it is asked for. -/
theorem journal_of_broken (h : leases.isBroken = true) (calls : List (Instant × LeaseRequest)) :
    leases.journal calls = calls.map fun call => ⟨call.1, call.2, brokenReply call.2⟩ := by
  induction calls with
  | nil =>
      rfl
  | cons call rest ih =>
      rw [journal, entry, serve_of_broken h, ih, List.map_cons]

/-! ## Breaking a store -/

/-- A free lock is asked for until a time that cannot be told. -/
structure Breaks (name : String) (token : Token) (expiry : Duration) (now : Instant)
    (leases : Leases) : Prop where
  whole : leases.isBroken = false
  short : expiry.nanoseconds ≤ Instant.longestShift
  free : ∀ lease, leases.granted.get? name = some lease → lease.isLive now = true →
    lease.token = token
  endless : now.after? expiry = none

theorem acquire_of_breaks (h : Breaks name token expiry now leases) :
    leases.acquire name token expiry now =
      (.panics Instant.overflow, { leases with isBroken := true }) := by
  unfold acquire
  rw [if_neg (Nat.not_lt.mpr h.short), h.whole, if_neg Bool.false_ne_true, if_neg, h.endless]
  cases found : leases.granted.get? name with
  | none =>
      exact Bool.false_ne_true
  | some lease =>
      simpa using h.free lease found

theorem acquire_of_not_breaks (unbroken : ¬Breaks name token expiry now leases)
    (ungranted : (leases.acquire name token expiry now).1 ≠ .now (.ok true)) :
    (leases.acquire name token expiry now).2 = leases := by
  unfold acquire at ungranted ⊢
  split
  · rfl
  · rename_i short
    rw [if_neg short] at ungranted
    split
    · rfl
    · rename_i whole
      rw [if_neg whole] at ungranted
      split
      · rfl
      · rename_i free
        rw [if_neg free] at ungranted
        cases after : now.after? expiry with
        | some expires =>
            rw [after] at ungranted
            exact absurd rfl ungranted
        | none =>
            refine absurd ⟨eq_false_of_ne_true whole, Nat.not_lt.mp short, ?_, after⟩ unbroken
            intro lease found live
            rw [found] at free
            simpa [live] using free

/-- A request breaks the store if its clock can be read and it breaks the store at that time. -/
def BreaksAt (name : String) (token : Token) (expiry : Duration) (reading : Outcome Instant)
    (leases : Leases) : Prop :=
  ∃ now, reading = .returned now ∧ Breaks name token expiry now leases

theorem left_of_breaksAt (h : BreaksAt name token expiry reading leases) :
    (LockStore.acquire name token expiry reading leases).2 = { leases with isBroken := true } := by
  rcases h with ⟨now, rfl, breaks⟩
  exact congrArg Prod.snd (acquire_of_breaks breaks)

theorem left_of_not_breaksAt (unbroken : ¬BreaksAt name token expiry reading leases)
    (ungranted : (LockStore.acquire name token expiry reading leases).1 ≠ .now (.ok true)) :
    (LockStore.acquire name token expiry reading leases).2 = leases := by
  cases reading with
  | panicked message =>
      rfl
  | returned now =>
      apply acquire_of_not_breaks
      · intro breaks
        exact unbroken ⟨now, rfl, breaks⟩
      · exact ungranted

/--
A lock that is asked for and not granted is noticed by no later request, unless that broke the
store; then every later request fails.
-/
theorem ungranted_unnoticed_iff_unbroken (name : String) (token : Token) (expiry : Duration)
    (reading : Outcome Instant) (leases : Leases)
    (ungranted : (LockStore.acquire name token expiry reading leases).1 ≠ .now (.ok true)) :
    ((∀ calls, (LockStore.acquire name token expiry reading leases).2.journal calls =
        leases.journal calls) ↔ ¬BreaksAt name token expiry reading leases) ∧
      (BreaksAt name token expiry reading leases → ∀ calls,
        (LockStore.acquire name token expiry reading leases).2.journal calls =
          calls.map fun call => ⟨call.1, call.2, brokenReply call.2⟩) := by
  have fails (h : BreaksAt name token expiry reading leases)
      (calls : List (Instant × LeaseRequest)) :
      (LockStore.acquire name token expiry reading leases).2.journal calls =
        calls.map fun call => ⟨call.1, call.2, brokenReply call.2⟩ := by
    rw [left_of_breaksAt h]
    exact journal_of_broken rfl calls
  refine ⟨⟨?_, ?_⟩, fails⟩
  · intro unnoticed h
    -- a whole store tells whether a lock is held, a broken one does not
    have asked := unnoticed [(.epoch, .isHeld name)]
    rw [fails h] at asked
    rcases h with ⟨now, _, breaks⟩
    simp [journal, entry, serve, isHeld, breaks.whole, brokenReply, LockReply.now] at asked
  · intro unbroken calls
    rw [left_of_not_breaksAt unbroken ungranted]

def heldOnce : Leases := (acquire "a" (.named "x") (.ofSeconds 3) .epoch {}).2

theorem refusal_unnoticed :
    (LockStore.acquire "a" (.named "y") (.ofSeconds 9) (.returned .epoch) heldOnce).1 ≠
        .now (.ok true) ∧
      ¬BreaksAt "a" (.named "y") (.ofSeconds 9) (.returned .epoch) heldOnce ∧
      (LockStore.acquire "a" (.named "y") (.ofSeconds 9) (.returned .epoch) heldOnce).2.journal
          [(.epoch, .release "a" (.named "x"))] =
        heldOnce.journal [(.epoch, .release "a" (.named "x"))] := by
  have ungranted : (LockStore.acquire "a" (.named "y") (.ofSeconds 9) (.returned .epoch)
      heldOnce).1 ≠ .now (.ok true) := by
    intro granted
    cases granted
  have unbroken : ¬BreaksAt "a" (.named "y") (.ofSeconds 9) (.returned .epoch) heldOnce := by
    rintro ⟨now, read, breaks⟩
    cases read
    have endless := breaks.endless
    revert endless
    decide +kernel
  exact ⟨ungranted, unbroken,
    (ungranted_unnoticed_iff_unbroken _ _ _ _ _ ungranted).1.mpr unbroken _⟩

/-- A lock is not granted, and from then on no one is told whether another one is held. -/
theorem endless_expiry_noticed :
    (LockStore.acquire "a" (.named "x") ⟨Instant.longestShift⟩ (.returned .epoch)
        ({} : Leases)).1 = .panics Instant.overflow ∧
      ((LockStore.acquire "a" (.named "x") ⟨Instant.longestShift⟩ (.returned .epoch)
        ({} : Leases)).2.journal [(.epoch, .isHeld "b")]).map (·.reply) =
          [.now (.error broken)] ∧
      (({} : Leases).journal [(.epoch, .isHeld "b")]).map (·.reply) = [.now (.ok false)] := by
  refine ⟨?_, ?_, ?_⟩ <;> rfl

end Leases
end MissionControl
