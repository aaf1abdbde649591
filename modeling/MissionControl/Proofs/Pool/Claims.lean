import MissionControl.Proofs.Claim.Ownership
import MissionControl.Proofs.Delivery.Stranding
import MissionControl.Proofs.Pool.Journal

/-!
# Claims of deliveries side by side

Deliveries in a pool, each with a claim of its own to make, share one set of claim records.  A
claim is dropped by naming the event, so a delivery whose claim has expired drops that of another
one.  Where every delivery drops its claim before it has expired, a claim keeps all others out
until it expires.
-/

namespace MissionControl

/-! ## What a delivery does to a claim -/

def Call.holdsAfter (eventId : String) : (c : Call) → Outcome c.Reply → Bool → Bool
  | .claim other _, .returned (.ok true), holds => decide (other = eventId) || holds
  | .forget other, _, holds => decide (other ≠ eventId) && holds
  | _, _, holds => holds

theorem Call.holdsAfter_of_isOnClaims {eventId : String} {c : Call} (h : c.isOnClaims = false)
    (reply : Outcome c.Reply) (holds : Bool) : c.holdsAfter eventId reply holds = holds := by
  cases c with
  | claim other retention =>
      cases h
  | forget other =>
      cases h
  | _ =>
      rfl

namespace Script

variable {α β : Type} {eventId : String} {holds : Bool}

/--
A script that moves no clock, drops a claim on an event only after it has made one, and comes to a
value that goes with whether it holds one then.
-/
def DropsOwn (eventId : String) (ending : α → Bool → Prop) : Script α → Bool → Prop
  | call c next, holds =>
      c.movesClock = false ∧ (c = .forget eventId → holds = true) ∧
        ∀ reply, (next reply).DropsOwn eventId ending (c.holdsAfter eventId reply holds)
  | done value, holds => ending value holds
  | panicked _, _ => True

namespace DropsOwn

variable {s : Script α} {f : α → Script β} {first : α → Bool → Prop} {ending : β → Bool → Prop}

theorem of_only_bind (aside : s.Only fun c => c.movesClock = false ∧ c.isOnClaims = false)
    (h : ∀ value, (f value).DropsOwn eventId ending holds) :
    (s.bind f).DropsOwn eventId ending holds := by
  induction s with
  | done value =>
      exact h value
  | panicked message =>
      trivial
  | call c next ih =>
      rcases aside with ⟨⟨still, elsewhere⟩, later⟩
      refine ⟨still, ?_, ?_⟩
      · intro same
        rw [same] at elsewhere
        cases elsewhere
      · intro reply
        rw [Call.holdsAfter_of_isOnClaims elsewhere]
        exact ih reply (later reply)

theorem bind (h : s.DropsOwn eventId first holds)
    (ends : ∀ value holds, first value holds → (f value).DropsOwn eventId ending holds) :
    (s.bind f).DropsOwn eventId ending holds := by
  induction s generalizing holds with
  | done value =>
      exact ends value holds h
  | panicked message =>
      trivial
  | call c next ih =>
      rcases h with ⟨still, own, later⟩
      refine ⟨still, own, ?_⟩
      intro reply
      exact ih reply (later reply)

theorem outcome (h : s.DropsOwn eventId first holds) :
    s.outcome.DropsOwn eventId
      (fun outcome holds => ∀ value, outcome = .returned value → first value holds) holds := by
  induction s generalizing holds with
  | done value =>
      intro other same
      cases same
      exact h
  | panicked message =>
      intro other same
      cases same
  | call c next ih =>
      rcases h with ⟨still, own, later⟩
      refine ⟨still, own, ?_⟩
      intro reply
      exact ih reply (later reply)

theorem task (h : s.DropsOwn eventId first holds) :
    s.task.DropsOwn eventId
      (fun outcome holds => ∀ value, outcome = .returned value → first value holds) holds := by
  have aside : rest.Only fun c => c.movesClock = false ∧ c.isOnClaims = false :=
    Only.perform (by constructor <;> rfl)
  refine of_only_bind aside fun _ => h.outcome.bind fun result holds ended => ?_
  exact of_only_bind aside fun _ => ended

end DropsOwn
end Script

theorem Outcome.eq_of_map_toOption {ε α : Type} {outcome : Outcome (Except ε α)} {value : α}
    (h : outcome.map Except.toOption = .returned (some value)) :
    outcome = .returned (.ok value) := by
  rcases outcome with (cause | result) | message
  · cases h
  · cases h
    rfl
  · cases h

/-- A delivery of a message to one of the instances of the service. -/
structure Delivery where
  guard : Guard
  mutex : Mutex
  retention : Duration
  body : Bytes

namespace Delivery

def processor (d : Delivery) : Processor := ⟨.full d.guard, d.mutex, d.retention⟩

def script (d : Delivery) : Script (Except DeliveryFault String) := d.processor.process d.body

/-- Whoever tells that an event was applied holds the claim on it. -/
def Kept (eventId : String) (event : RocketEvent) (result : Except DeliveryFault String)
    (holds : Bool) : Prop :=
  Processor.isApplied result = true → event.eventId = eventId → holds = true

/-- A delivery that tells that its event was applied holds the claim on it. -/
def Keeps (d : Delivery) (eventId : String) (result : Except DeliveryFault String)
    (holds : Bool) : Prop :=
  ∀ event, RocketEvent.ofBody d.body = .ok event → Kept eventId event result holds

theorem dropsOwn_dispatchClaimed (d : Delivery) (event : RocketEvent) (eventId : String) :
    (d.processor.dispatchClaimed event).DropsOwn eventId (Kept eventId event)
      (decide (event.eventId = eventId)) := by
  rw [Processor.dispatchClaimed_eq]
  refine Script.DropsOwn.of_only_bind ?_ fun result => ?_
  · apply World.only_dispatchExclusively
    · intro c onRockets
      cases c <;> first | exact ⟨rfl, rfl⟩ | cases onRockets
    · intro c coordinates
      exact ⟨Call.movesClock_of_isCoordination coordinates,
        Call.isOnClaims_of_isCoordination coordinates⟩
  · split
    · intro _ same
      exact decide_eq_true same
    · rename_i failed
      have unapplied (holds : Bool) :
          Kept eventId event (Processor.told event.eventId result) holds := by
        intro applied
        rw [Processor.isApplied_told] at applied
        exact absurd applied failed
      refine ⟨rfl, ?_, ?_⟩
      · intro same
        cases same
        exact decide_eq_true rfl
      · intro reply
        cases reply with
        | returned value =>
            exact unapplied _
        | panicked message =>
            trivial

theorem dropsOwn_handleOnce (d : Delivery) (event : RocketEvent) (eventId : String) :
    (d.processor.handleOnce event).DropsOwn eventId (Kept eventId event) false := by
  rw [Processor.handleOnce_eq]
  refine ⟨rfl, ?_, ?_⟩
  · intro same
    cases same
  · intro reply
    rcases reply with (cause | _ | _) | message
    · intro applied
      cases applied
    · intro applied
      cases applied
    · have own := d.dropsOwn_dispatchClaimed event eventId
      rwa [← Bool.or_false (decide _)] at own
    · trivial

/--
A delivery drops the claim on an event only after it has made one, and keeps it where the event was
applied.
-/
theorem dropsOwn_script (d : Delivery) (eventId : String) :
    d.script.DropsOwn eventId (d.Keeps eventId) false := by
  unfold script
  cases resolved : RocketEvent.ofBody d.body with
  | error cause =>
      unfold Processor.process
      rw [resolved]
      intro event same
      rw [resolved] at same
      cases same
  | ok event =>
      rw [d.processor.process_of_ok event resolved]
      refine (d.dropsOwn_handleOnce event eventId).task.bind fun outcome holds ended => ?_
      intro other same
      rw [resolved] at same
      cases same
      cases outcome with
      | returned result =>
          exact ended result rfl
      | panicked message =>
          intro applied
          cases applied

end Delivery

/-! ## Who holds a claim -/

namespace Pool

variable {L R α : Type} [LockStore L] [RocketStore R] {eventId : String}
  {holds : Nat → Option Instant} {w : World L ClaimRecords R} {index : Nat} {c : Call}

/-- Until when each delivery holds a claim on an event, after another call of one of them. -/
def hold (eventId : String) (holds : Nat → Option Instant)
    (entry : Nat × Moment L ClaimRecords R) : Nat → Option Instant :=
  match entry.2.call with
  | .claim other retention =>
      match (entry.2.world.serve (.claim other retention)).reply, entry.2.world.clock.read with
      | .returned (.ok true), .returned now =>
          if other = eventId then Function.update holds entry.1 (now.after? retention) else holds
      | _, _ => holds
  | .forget other => if other = eventId then Function.update holds entry.1 none else holds
  | _ => holds

/-- Until when each delivery holds a claim on an event: it has made and not dropped it. -/
def held (eventId : String) (journal : List (Nat × Moment L ClaimRecords R)) :
    Nat → Option Instant :=
  journal.foldl (hold eventId) fun _ => none

/-- Whether a delivery that drops its claim on an event does so before the claim has expired. -/
def dropsInTime (eventId : String) (holds : Nat → Option Instant)
    (entry : Nat × Moment L ClaimRecords R) : Bool :=
  match entry.2.call, holds entry.1, entry.2.world.clock.read with
  | .forget other, some expiry, .returned now => decide (other ≠ eventId ∨ now < expiry)
  | _, _, _ => true

def allInTime (eventId : String) (holds : Nat → Option Instant) :
    List (Nat × Moment L ClaimRecords R) → Bool
  | [] => true
  | entry :: rest =>
      dropsInTime eventId holds entry && allInTime eventId (hold eventId holds entry) rest

theorem hold_of_isOnClaims (h : c.isOnClaims = false) :
    hold eventId holds (index, (⟨w, c⟩ : Moment L ClaimRecords R)) = holds := by
  cases c with
  | claim other retention =>
      cases h
  | forget other =>
      cases h
  | _ =>
      rfl

theorem hold_forget (other : String) :
    hold eventId holds (index, (⟨w, .forget other⟩ : Moment L ClaimRecords R)) =
      if other = eventId then Function.update holds index none else holds := rfl

theorem hold_of_granted {other : String} {retention : Duration} {now : Instant}
    (reads : w.clock.read = .returned now)
    (granted : (w.serve (.claim other retention)).reply = .returned (.ok true)) :
    hold eventId holds (index, (⟨w, .claim other retention⟩ : Moment L ClaimRecords R)) =
      if other = eventId then Function.update holds index (now.after? retention) else holds := by
  simp only [hold, granted, reads]

theorem hold_of_refused {other : String} {retention : Duration}
    {outcome : Outcome (Except ClaimFault Bool)}
    (reply : (w.serve (.claim other retention)).reply = outcome)
    (refused : outcome ≠ .returned (.ok true)) :
    hold eventId holds (index, (⟨w, .claim other retention⟩ : Moment L ClaimRecords R)) =
      holds := by
  unfold hold
  dsimp only
  split
  · rename_i granted reads
    exact absurd (reply.symm.trans granted) refused
  · rfl

/-! ## One call -/

theorem claimed_serve {now : Instant} (reads : w.clock.read = .returned now) (other : String)
    (retention : Duration) :
    ClaimRecords.Claimed other retention now w.claims
      (w.serve (.claim other retention)).reply
      (w.serve (.claim other retention)).world.claims := by
  rw [World.serve_claim reads]
  exact ClaimRecords.claimed_claim other retention now w.claims

/-- A call on the claim records, or any other, keeps track of who holds a claim. -/
theorem tracks_serve {now : Instant} (reads : w.clock.read = .returned now)
    (own : c = .forget eventId → (holds index).isSome = true)
    (inTime : dropsInTime eventId holds (index, (⟨w, c⟩ : Moment L ClaimRecords R)) = true)
    (tracks : w.claims.Tracks eventId holds now) :
    (w.serve c).world.claims.Tracks eventId (hold eventId holds (index, ⟨w, c⟩)) now := by
  cases c with
  | claim other retention =>
      have claimed := claimed_serve reads other retention
      generalize reply : (w.serve (.claim other retention)).reply = outcome at claimed
      generalize (w.serve (.claim other retention)).world.claims = records at claimed ⊢
      cases claimed with
      | failed none =>
          rw [hold_of_refused reply (none true)]
          exact tracks
      | refused live =>
          rw [hold_of_refused reply nofun]
          exact tracks.sweep
      | @granted expiry free after =>
          -- The event was free, so no other delivery has a claim on it that has not expired.
          rw [hold_of_granted reads reply]
          split
          · rename_i same
            subst same
            rw [after]
            exact tracks.granted free index expiry
          · rename_i apart
            exact tracks.sweep.record_other apart expiry
  | forget other =>
      rw [hold_forget]
      show (w.claims.forget other).Tracks eventId _ now
      split
      · rename_i same
        subst same
        rcases Option.isSome_iff_exists.mp (own rfl) with ⟨expiry, held⟩
        unfold dropsInTime at inTime
        simp only [held, reads, ne_eq, not_true, false_or, decide_eq_true_eq] at inTime
        exact tracks.dropped held inTime
      · rename_i apart
        exact tracks.forget_other apart
  | _ =>
      rw [World.claims_serve rfl, hold_of_isOnClaims rfl]
      exact tracks

theorem exists_hold (eventId : String) (holds : Nat → Option Instant) (index : Nat)
    (w : World L ClaimRecords R) (c : Call) :
    ∃ due, hold eventId holds (index, ⟨w, c⟩) = Function.update holds index due := by
  have same : holds = Function.update holds index (holds index) :=
    (Function.update_eq_self index holds).symm
  cases c with
  | claim other retention =>
      unfold hold
      dsimp only
      split
      · split
        · exact ⟨_, rfl⟩
        · exact ⟨_, same⟩
      · exact ⟨_, same⟩
  | forget other =>
      rw [hold_forget]
      split
      · exact ⟨_, rfl⟩
      · exact ⟨_, same⟩
  | _ =>
      exact ⟨_, same⟩

theorem hold_elsewhere {i : Nat} (apart : i ≠ index) :
    hold eventId holds (index, (⟨w, c⟩ : Moment L ClaimRecords R)) i = holds i := by
  rcases exists_hold eventId holds index w c with ⟨due, changed⟩
  rw [changed, Function.update_of_ne apart]

theorem isSome_hold {now : Instant} (reads : w.clock.read = .returned now) :
    (hold eventId holds (index, (⟨w, c⟩ : Moment L ClaimRecords R)) index).isSome =
      c.holdsAfter eventId (w.serve c).reply (holds index).isSome := by
  cases c with
  | claim other retention =>
      have claimed := claimed_serve reads other retention
      generalize reply : (w.serve (.claim other retention)).reply = outcome at claimed ⊢
      generalize (w.serve (.claim other retention)).world.claims = records at claimed
      cases claimed with
      | failed none =>
          rw [hold_of_refused reply (none true)]
          rcases outcome with (cause | _ | _) | message
          · rfl
          · rfl
          · exact absurd rfl (none true)
          · rfl
      | refused live =>
          rw [hold_of_refused reply nofun]
          rfl
      | @granted expiry free after =>
          rw [hold_of_granted reads reply, after]
          by_cases same : other = eventId <;> simp [Call.holdsAfter, same]
  | forget other =>
      rw [hold_forget]
      by_cases same : other = eventId <;> simp [Call.holdsAfter, same]
  | _ =>
      rfl

/-! ## Any schedule -/

/-- Tasks in a pool, some of which hold claims on an event. -/
structure Holding (eventId : String) (ending : Nat → α → Bool → Prop) (readings : Supply Instant)
    (pool : Pool L ClaimRecords R α) (holds : Nat → Option Instant) : Prop where
  own : ∀ i s, pool.script? i = some s → s.DropsOwn eventId (ending i) (holds i).isSome
  going : ∃ taken, pool.world.clock = .going (readings.drop taken)
  tracks : ∀ now, pool.world.clock.read = .returned now →
    pool.world.claims.Tracks eventId holds now

namespace Holding

variable {ending : Nat → α → Bool → Prop} {readings : Supply Instant}
  {pool : Pool L ClaimRecords R α} {next : Outcome c.Reply → Script α}

theorem step (h : Holding eventId ending readings pool holds) (rising : readings.Rising)
    (due : pool.script? index = some (.call c next))
    (inTime : dropsInTime eventId holds (index, ⟨pool.world, c⟩) = true) :
    Holding eventId ending readings (pool.step index)
      (hold eventId holds (index, ⟨pool.world, c⟩)) := by
  rcases h.own index _ due with ⟨still, own, later⟩
  rcases h.going with ⟨taken, going⟩
  have reads : pool.world.clock.read = .returned (readings taken) := by
    rw [going]
    show Outcome.returned (readings (0 + taken)) = _
    rw [Nat.zero_add]
  have world := world_step due
  have clock := World.clock_serve still pool.world
  rw [← world, going] at clock
  have tracks := tracks_serve reads own inTime (h.tracks _ reads)
  rw [← world] at tracks
  constructor
  · intro i s script
    rw [script?_step due] at script
    split at script
    · rename_i here
      rw [here, isSome_hold reads, ← Option.some.inj script]
      exact later _
    · rename_i apart
      rw [hold_elsewhere apart]
      exact h.own i s script
  · rcases clock with same | ticked
    · exact ⟨taken, same⟩
    · refine ⟨taken + 1, ?_⟩
      rw [ticked, ← Supply.after_drop]
      rfl
  · intro now readsNow
    rcases clock with same | ticked
    · rw [same, ← going, reads] at readsNow
      cases readsNow
      exact tracks
    · rw [ticked] at readsNow
      cases readsNow
      refine tracks.later ?_
      show readings taken ≤ readings (0 + 1 + taken)
      exact rising.le (by omega)

/-- What one call keeps, every schedule keeps. -/
theorem play (h : Holding eventId ending readings pool holds) (rising : readings.Rising)
    (schedule : List Nat) (inTime : allInTime eventId holds (pool.journal schedule) = true) :
    Holding eventId ending readings (pool.playSchedule schedule)
      ((pool.journal schedule).foldl (hold eventId) holds) := by
  induction schedule generalizing pool holds with
  | nil =>
      exact h
  | cons index rest ih =>
      rw [journal] at inTime ⊢
      show Holding eventId ending readings ((pool.step index).playSchedule rest) _
      cases due : pool.moment? index with
      | none =>
          have same := step_of_moment?_eq_none due
          rw [due] at inTime
          rw [same] at inTime ⊢
          exact ih h inTime
      | some m =>
          rcases exists_of_moment? due with ⟨next, script, world⟩
          have here : m = ⟨pool.world, m.call⟩ := by rw [← world]
          rw [due] at inTime
          rcases Bool.and_eq_true_iff.mp inTime with ⟨first, others⟩
          rw [here] at first others
          have stepped := ih (h.step rising script first) others
          rw [← here] at stepped
          exact stepped

end Holding

def ofDeliveries (delivery : Nat → Delivery) (count : Nat) (start : World L ClaimRecords R) :
    Pool L ClaimRecords R (Except DeliveryFault String) :=
  Pool.start start ((List.range count).map fun index => (delivery index).script)

omit [LockStore L] [RocketStore R] in
theorem holding_ofDeliveries (eventId : String) (delivery : Nat → Delivery) (count : Nat)
    {start : World L ClaimRecords R} {readings : Supply Instant}
    (going : start.clock = .going readings) :
    Holding eventId (fun i result holds => (delivery i).Keeps eventId result holds) readings
      (ofDeliveries delivery count start) fun _ => none := by
  constructor
  · intro i s script
    rw [ofDeliveries, script?_start, List.getElem?_map] at script
    rcases Option.map_eq_some_iff.mp script with ⟨index, found, rfl⟩
    rcases List.getElem?_eq_some_iff.mp found with ⟨short, here⟩
    rw [List.getElem_range] at here
    rw [← here]
    exact (delivery i).dropsOwn_script eventId
  · exact ⟨0, going⟩
  · intro now reads
    exact ClaimRecords.Tracks.start eventId _ now

/--
However the calls of deliveries are mixed, where every delivery that drops a claim on an event does
so before its claim has expired, a delivery that applied the event holds its claim, and a claim that
is held stays recorded until it expires: whoever else claims the event is told that it is claimed,
unless no claim can be kept for as long as asked.
-/
theorem claim_kept_where_dropped_in_time (eventId : String) (delivery : Nat → Delivery)
    (count : Nat) (start : World L ClaimRecords R) (readings : Supply Instant)
    (going : start.clock = .going readings) (rising : readings.Rising) (schedule : List Nat)
    (inTime : allInTime eventId (fun _ => none)
      ((ofDeliveries delivery count start).journal schedule) = true) :
    (∀ i event result, RocketEvent.ofBody (delivery i).body = .ok event →
        event.eventId = eventId →
        ((ofDeliveries delivery count start).playSchedule schedule).tasks[i]?.bind Task.outcome? =
          some (.returned result) →
        Processor.isApplied result = true →
        (held eventId ((ofDeliveries delivery count start).journal schedule) i).isSome = true) ∧
      ∀ i expiry now,
        held eventId ((ofDeliveries delivery count start).journal schedule) i = some expiry →
        ((ofDeliveries delivery count start).playSchedule schedule).world.clock.read =
          .returned now →
        now < expiry →
        ((ofDeliveries delivery count start).playSchedule schedule).world.claims.expiries.get?
            eventId = some expiry ∧
          ∀ retention,
            (((ofDeliveries delivery count start).playSchedule schedule).world.serve
              (.claim eventId retention)).reply =
                (ClaimRecords.expiry retention now).map (Except.map fun _ => false) := by
  have holding := (holding_ofDeliveries eventId delivery count going).play rising schedule inTime
  constructor
  · intro i event result resolved same ended applied
    exact holding.own i _ (script?_of_ended ended) event resolved applied same
  · intro i expiry now holds reads live
    have tracks := holding.tracks now reads
    constructor
    · exact tracks.recorded i expiry holds live
    · intro retention
      rw [World.serve_claim reads]
      exact ClaimRecords.claim_of_isLive (tracks.isLive holds live) retention

def accelerationDeliveries (_ : Nat) : Delivery :=
  ⟨.notAfter, World.oneAttempt.mutex, World.oneAttempt.retention, World.accelerationBody⟩

omit [LockStore L] [RocketStore R] in
theorem ofDeliveries_accelerations (count : Nat) (start : World L ClaimRecords R) :
    ofDeliveries accelerationDeliveries count start =
      Pool.start start (.replicate count
        ((World.oneAttempt.handleOnce World.acceleration).task.bind fun outcome =>
          .done (Processor.concluded World.acceleration.eventId outcome))) := by
  have script (index : Nat) : (accelerationDeliveries index).script =
      World.oneAttempt.process World.accelerationBody := rfl
  unfold ofDeliveries
  simp only [script, List.map_const', List.length_range]
  rw [World.oneAttempt.process_of_ok World.acceleration World.ofBody_accelerationBody]

theorem ended_of_map_toOption {L C R ε α : Type} {pool : Pool L C R (Except ε α)} {i : Nat}
    {value : α} (h : (pool.tasks[i]?.bind Task.outcome?).map (fun outcome =>
      outcome.map Except.toOption) = some (.returned (some value))) :
    pool.tasks[i]?.bind Task.outcome? = some (.returned (.ok value)) := by
  rcases Option.map_eq_some_iff.mp h with ⟨outcome, ended, succeeded⟩
  rw [ended, Outcome.eq_of_map_toOption succeeded]

def refusedFirst : Pool AnyLocks ClaimRecords Fleet (Except DeliveryFault String) :=
  ofDeliveries accelerationDeliveries 2 (World.answeringAcquires [.no, .yes] (.always .epoch))

def droppedAndApplied : List Nat := .replicate 7 0 ++ .replicate 12 1

theorem acceleration_kept_after_drop_in_time :
    (refusedFirst.playSchedule droppedAndApplied).tasks[1]?.bind Task.outcome? =
        some (.returned (.ok World.acceleration.eventId)) ∧
      (held World.acceleration.eventId (refusedFirst.journal droppedAndApplied) 1).isSome = true ∧
      ∀ retention, ((refusedFirst.playSchedule droppedAndApplied).world.serve
        (.claim World.acceleration.eventId retention)).reply =
          (ClaimRecords.expiry retention .epoch).map (Except.map fun _ => false) := by
  have pool := ofDeliveries_accelerations 2 (World.answeringAcquires [.no, .yes] (.always .epoch))
  have ended : (refusedFirst.playSchedule droppedAndApplied).tasks[1]?.bind Task.outcome? =
      some (.returned (.ok World.acceleration.eventId)) := by
    apply ended_of_map_toOption
    rw [refusedFirst, pool]
    decide +kernel
  have holds : held World.acceleration.eventId (refusedFirst.journal droppedAndApplied) 1 =
      some ⟨29, 0⟩ := by
    rw [refusedFirst, pool]
    decide +kernel
  have inTime : allInTime World.acceleration.eventId (fun _ => none)
      (refusedFirst.journal droppedAndApplied) = true := by
    rw [refusedFirst, pool]
    decide +kernel
  have reads : (refusedFirst.playSchedule droppedAndApplied).world.clock.read =
      .returned .epoch := by
    rw [refusedFirst, pool]
    decide +kernel
  have kept := claim_kept_where_dropped_in_time World.acceleration.eventId accelerationDeliveries 2
    (World.answeringAcquires [.no, .yes] (.always .epoch)) (.always .epoch) rfl
    (fun _ => Instant.le_refl _) droppedAndApplied inTime
  refine ⟨ended, ?_, ?_⟩
  · exact kept.1 1 World.acceleration _ World.ofBody_accelerationBody rfl ended rfl
  · exact (kept.2 1 ⟨29, 0⟩ .epoch holds reads (by decide)).2

def jumping : Supply Instant := fun n => if n = 0 then .epoch else ⟨30, 0⟩

def claimedTwiceAndDropped : List Nat := .replicate 2 0 ++ .replicate 12 1 ++ .replicate 5 0

def overtakingDeliveries : Pool AnyLocks ClaimRecords Fleet (Except DeliveryFault String) :=
  ofDeliveries accelerationDeliveries 3 (World.answeringAcquires [.yes, .no] jumping)

/-- A claim whose event was handled is dropped by a delivery whose own claim has expired. -/
theorem acceleration_dropped_by_another :
    jumping.Rising ∧
      (overtakingDeliveries.playSchedule claimedTwiceAndDropped).tasks[1]?.bind Task.outcome? =
        some (.returned (.ok World.acceleration.eventId)) ∧
      held World.acceleration.eventId (overtakingDeliveries.journal claimedTwiceAndDropped) 1 =
        some ⟨59, 0⟩ ∧
      (overtakingDeliveries.playSchedule claimedTwiceAndDropped).world.clock.read =
        .returned ⟨30, 0⟩ ∧
      ((overtakingDeliveries.playSchedule claimedTwiceAndDropped).world.serve
        (.claim World.acceleration.eventId (.ofSeconds 29))).reply = .returned (.ok true) := by
  have rising : jumping.Rising := by
    intro n
    cases n with
    | zero =>
        decide
    | succ n =>
        exact Instant.le_refl _
  rw [overtakingDeliveries, ofDeliveries_accelerations]
  refine ⟨rising, ended_of_map_toOption ?_, by decide +kernel, by decide +kernel,
    Outcome.eq_of_map_toOption ?_⟩
  · decide +kernel
  · decide +kernel

end Pool
end MissionControl
