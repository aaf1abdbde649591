import Mathlib.Data.List.Chain
import MissionControl.Proofs.Claim.Liveness

/-!
# The ledger of claims

A ledger notes every claim that is written and every one that is dropped, and never takes an entry
out.  Claim records forget what has expired, at moments of their own choosing.  The main statement
is that no run of requests tells the two apart, as long as the clock does not go back.
-/

namespace MissionControl

/-! ## Requests -/

inductive ClaimRequest where
  | isClaimed (eventId : String)
  | mark (eventId : String) (retention : Duration)
  | claim (eventId : String) (retention : Duration)
  | forget (eventId : String)
  deriving Repr, DecidableEq

inductive ClaimAnswer where
  | told (claimed : Bool)
  | marked (outcome : Outcome (Except ClaimFault Unit))
  | granted (outcome : Outcome (Except ClaimFault Bool))
  | forgotten

namespace ClaimRecords

def serve (now : Instant) (records : ClaimRecords) : ClaimRequest → ClaimAnswer × ClaimRecords
  | .isClaimed eventId => (records.isClaimed eventId now).map .told id
  | .mark eventId retention => (records.mark eventId retention now).map .marked id
  | .claim eventId retention => (records.claim eventId retention now).map .granted id
  | .forget eventId => (.forgotten, records.forget eventId)

/-- The answers to requests, each made at a time of its own. -/
def answers (records : ClaimRecords) : List (Instant × ClaimRequest) → List ClaimAnswer
  | [] => []
  | (now, request) :: rest =>
      (records.serve now request).1 :: (records.serve now request).2.answers rest

end ClaimRecords

/-! ## The ledger -/

inductive LedgerEntry where
  | written (eventId : String) (time : Instant) (retention : Duration)
  | dropped (eventId : String)
  deriving Repr, DecidableEq

/-- Entries, the latest first. -/
abbrev ClaimLedger := List LedgerEntry

namespace ClaimLedger

/-- The last write of an event that it was not dropped after: its time and its retention. -/
def lastWrite? (eventId : String) : ClaimLedger → Option (Instant × Duration)
  | [] => none
  | .written other time retention :: rest =>
      if other = eventId then some (time, retention) else lastWrite? eventId rest
  | .dropped other :: rest => if other = eventId then none else lastWrite? eventId rest

def expiry? (eventId : String) (ledger : ClaimLedger) : Option Instant :=
  (ledger.lastWrite? eventId).bind fun write => write.1.after? write.2

def isClaimed (eventId : String) (now : Instant) (ledger : ClaimLedger) : Bool :=
  (ledger.expiry? eventId).any fun expiry => now < expiry

/-- What becomes of a write that cannot be made: its retention is too long, or its expiry is. -/
def refusal? (α : Type) (retention : Duration) (now : Instant) :
    Option (Outcome (Except ClaimFault α)) :=
  if Instant.longestShift < retention.nanoseconds then
    some (.returned (.error (.invalidRetention retention)))
  else if (now.after? retention).isNone then
    some (.panicked Instant.overflow)
  else
    none

def serve (now : Instant) (ledger : ClaimLedger) : ClaimRequest → ClaimAnswer × ClaimLedger
  | .isClaimed eventId => (.told (ledger.isClaimed eventId now), ledger)
  | .mark eventId retention =>
      match refusal? Unit retention now with
      | some refusal => (.marked refusal, ledger)
      | none => (.marked (.returned (.ok ())), .written eventId now retention :: ledger)
  | .claim eventId retention =>
      match refusal? Bool retention now with
      | some refusal => (.granted refusal, ledger)
      | none =>
          if ledger.isClaimed eventId now then
            (.granted (.returned (.ok false)), ledger)
          else
            (.granted (.returned (.ok true)), .written eventId now retention :: ledger)
  | .forget eventId => (.forgotten, .dropped eventId :: ledger)

def answers (ledger : ClaimLedger) : List (Instant × ClaimRequest) → List ClaimAnswer
  | [] => []
  | (now, request) :: rest =>
      (ledger.serve now request).1 :: answers (ledger.serve now request).2 rest

theorem expiry?_written {eventId other : String} {now : Instant} {retention : Duration}
    {ledger : ClaimLedger} :
    expiry? other (.written eventId now retention :: ledger) =
      if eventId = other then now.after? retention else ledger.expiry? other := by
  rw [expiry?, lastWrite?]
  split <;> rfl

theorem expiry?_dropped {eventId other : String} {ledger : ClaimLedger} :
    expiry? other (.dropped eventId :: ledger) =
      if eventId = other then none else ledger.expiry? other := by
  rw [expiry?, lastWrite?]
  split <;> rfl

end ClaimLedger

namespace ClaimRecords

/-! ## Agreement -/

/-- From some time on the claims that are live are those of a ledger. -/
def Mirrors (records : ClaimRecords) (ledger : ClaimLedger) (now : Instant) : Prop :=
  ∀ eventId later, now ≤ later →
    records.liveAt later eventId = (ledger.expiry? eventId).filter fun expiry => later < expiry

theorem expiry_eq_or (retention : Duration) (now : Instant) :
    (∃ fault, expiry retention now = .returned (.error fault) ∧
      ∀ α, ClaimLedger.refusal? α retention now = some (.returned (.error fault))) ∨
    (∃ message, expiry retention now = .panicked message ∧
      ∀ α, ClaimLedger.refusal? α retention now = some (.panicked message)) ∨
    ∃ expires, now.after? retention = some expires ∧
      expiry retention now = .returned (.ok expires) ∧
      ∀ α, ClaimLedger.refusal? α retention now = none := by
  unfold expiry ClaimLedger.refusal?
  by_cases long : Instant.longestShift < retention.nanoseconds
  · simp [long]
  · cases after : now.after? retention with
    | none =>
        simp [long]
    | some expires =>
        simp [long]

namespace Mirrors

variable {records : ClaimRecords} {ledger : ClaimLedger} {now : Instant}

theorem start (now : Instant) : (ClaimRecords.start now).Mirrors [] now := by
  intro eventId later le
  rfl

theorem later (h : records.Mirrors ledger now) {later : Instant} (le : now ≤ later) :
    records.Mirrors ledger later := by
  intro eventId last le'
  exact h eventId last (Instant.le_trans le le')

theorem isLive (h : records.Mirrors ledger now) (eventId : String) :
    records.isLive eventId now = ledger.isClaimed eventId now := by
  rw [isLive_eq_isSome_liveAt, h eventId now (Instant.le_refl now), ClaimLedger.isClaimed]
  cases ledger.expiry? eventId with
  | none =>
      rfl
  | some expiry =>
      by_cases live : now < expiry <;> simp [Option.filter, live]

theorem sweep (h : records.Mirrors ledger now) : (records.sweep now).Mirrors ledger now := by
  intro eventId later le
  rw [liveAt_sweep eventId records le]
  exact h eventId later le

theorem erase (h : records.Mirrors ledger now) {eventId : String}
    (expired : records.isLive eventId now = false) :
    Mirrors { records with expiries := records.expiries.erase eventId } ledger now := by
  intro other later le
  show (records.forget eventId).liveAt later other = _
  rw [liveAt_forget, ← h other later le]
  split
  · rename_i same
    rw [same, liveAt_eq_none expired le]
  · rfl

theorem record (h : records.Mirrors ledger now) (eventId : String) {retention : Duration}
    {expires : Instant} (after : now.after? retention = some expires) :
    (records.record eventId expires).Mirrors (.written eventId now retention :: ledger) now := by
  intro other later le
  rw [ClaimLedger.expiry?_written, liveAt_record]
  by_cases same : other = eventId
  · rw [if_pos same, if_pos same.symm, after]
  · rw [if_neg same, if_neg (Ne.symm same)]
    exact h other later le

theorem forget (h : records.Mirrors ledger now) (eventId : String) :
    (records.forget eventId).Mirrors (.dropped eventId :: ledger) now := by
  intro other later le
  rw [ClaimLedger.expiry?_dropped, liveAt_forget]
  by_cases same : other = eventId
  · rw [if_pos same, if_pos same.symm]
    rfl
  · rw [if_neg same, if_neg (Ne.symm same)]
    exact h other later le

/-- A request is answered as by the ledger, and leaves what the ledger leaves. -/
theorem serve (h : records.Mirrors ledger now) (request : ClaimRequest) :
    (records.serve now request).1 = (ledger.serve now request).1 ∧
      (records.serve now request).2.Mirrors (ledger.serve now request).2 now := by
  cases request with
  | isClaimed eventId =>
      have same := h.isLive eventId
      simp only [ClaimRecords.serve, ClaimLedger.serve, isClaimed]
      cases live : records.isLive eventId now with
      | true =>
          rw [← same, live]
          exact ⟨rfl, h⟩
      | false =>
          -- a record that is found expired is taken out on the way
          rw [← same, live]
          exact ⟨rfl, h.erase live⟩
  | mark eventId retention =>
      unfold ClaimRecords.serve ClaimLedger.serve mark
      rcases expiry_eq_or retention now with
        ⟨fault, told, refused⟩ | ⟨message, told, refused⟩ | ⟨expires, after, told, free⟩
      · simp only [told, refused]
        exact ⟨rfl, h⟩
      · simp only [told, refused]
        exact ⟨rfl, h⟩
      · simp only [told, free]
        exact ⟨rfl, h.sweep.record eventId after⟩
  | claim eventId retention =>
      unfold ClaimRecords.serve ClaimLedger.serve claim
      rcases expiry_eq_or retention now with
        ⟨fault, told, refused⟩ | ⟨message, told, refused⟩ | ⟨expires, after, told, free⟩
      · simp only [told, refused]
        exact ⟨rfl, h⟩
      · simp only [told, refused]
        exact ⟨rfl, h⟩
      · simp only [told, free, h.sweep.isLive eventId]
        cases ledger.isClaimed eventId now with
        | true =>
            exact ⟨rfl, h.sweep⟩
        | false =>
            exact ⟨rfl, h.sweep.record eventId after⟩
  | forget eventId =>
      exact ⟨rfl, h.forget eventId⟩

theorem answers (h : records.Mirrors ledger now) {requests : List (Instant × ClaimRequest)}
    (rising : List.IsChain (· ≤ ·) (now :: requests.map (·.1))) :
    records.answers requests = ClaimLedger.answers ledger requests := by
  induction requests generalizing records ledger now with
  | nil =>
      rfl
  | cons timed rest ih =>
      rcases timed with ⟨time, request⟩
      rcases List.isChain_cons_cons.mp rising with ⟨le, rising⟩
      rcases (h.later le).serve request with ⟨same, mirrors⟩
      rw [ClaimRecords.answers, ClaimLedger.answers, same, ih mirrors rising]

end Mirrors

/-! ## Any run -/

/--
Claim records that were started empty answer every run of requests as a ledger does that never
takes anything out, if each request is made no earlier than the one before it.
-/
theorem answers_start_eq_ledger (start : Instant) (requests : List (Instant × ClaimRequest))
    (rising : List.IsChain (· ≤ ·) (start :: requests.map (·.1))) :
    (ClaimRecords.start start).answers requests = ClaimLedger.answers [] requests :=
  (Mirrors.start start).answers rising

def sweptUnseen : List (Instant × ClaimRequest) :=
  [(⟨0, 0⟩, .claim "a" (.ofSeconds 9)), (⟨0, 0⟩, .mark "a" (.ofSeconds 3)),
    (⟨2, 0⟩, .claim "a" (.ofSeconds 5)), (⟨3, 0⟩, .isClaimed "a"),
    (⟨3, 0⟩, .mark "a" ⟨Instant.longestShift + 1⟩), (⟨3, 0⟩, .claim "a" ⟨Instant.longestShift⟩),
    (⟨3, 0⟩, .claim "b" .zero), (⟨3, 0⟩, .claim "b" (.ofSeconds 1)),
    (⟨4, 0⟩, .isClaimed "b"), (⟨4, 0⟩, .claim "a" (.ofSeconds 1)), (⟨4, 0⟩, .forget "a"),
    (⟨4, 0⟩, .claim "a" (.ofSeconds 1))]

theorem swept_unseen :
    List.IsChain (· ≤ ·) (Instant.epoch :: sweptUnseen.map (·.1)) ∧
      (ClaimRecords.start .epoch).answers sweptUnseen =
        [.granted (.returned (.ok true)), .marked (.returned (.ok ())),
          .granted (.returned (.ok false)), .told false,
          .marked (.returned (.error (.invalidRetention ⟨Instant.longestShift + 1⟩))),
          .granted (.panicked Instant.overflow), .granted (.returned (.ok true)),
          .granted (.returned (.ok true)), .told false, .granted (.returned (.ok true)),
          .forgotten, .granted (.returned (.ok true))] := by
  have rising : List.IsChain (· ≤ ·) (Instant.epoch :: sweptUnseen.map (·.1)) := by
    decide +kernel
  refine ⟨rising, ?_⟩
  rw [answers_start_eq_ledger .epoch sweptUnseen rising]
  rfl

end ClaimRecords
end MissionControl
