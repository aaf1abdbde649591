import MissionControl.Proofs.Delivery.Outcome
import MissionControl.Proofs.Time.Distance

/-!
# The retention window

An event that was applied is not applied again before its claim expires.  The claim of an applied
delivery is kept by every delivery that is processed before its expiry, so the next one that is
applied claims the event at its expiry or later.
-/

namespace MissionControl
namespace World

variable {L : Type} [LockStore L]

/-! ## Deliveries one after another -/

def processed (p : Processor) : List Bytes → World L ClaimRecords Fleet →
    World L ClaimRecords Fleet
  | [], w => w
  | body :: rest, w => processed p rest (play (p.process body) w).2

/-- No call on the lock store panics while bodies are processed, one after another. -/
def LocksAnswerAll (p : Processor) : List Bytes → World L ClaimRecords Fleet → Prop
  | [], _ => True
  | body :: rest, w =>
      LocksAnswer (p.process body) w ∧ LocksAnswerAll p rest (play (p.process body) w).2

variable {p : Processor} {handlers : List (String × EventHandler)}
  {readings : Supply Instant} {eventId : String} {expiry : Instant}

theorem processed_append (earlier later : List Bytes) (w : World L ClaimRecords Fleet) :
    processed p (earlier ++ later) w = processed p later (processed p earlier w) := by
  induction earlier generalizing w with
  | nil =>
      rfl
  | cons body rest ih =>
      exact ih _

theorem locksAnswerAll_append {earlier later : List Bytes} {w : World L ClaimRecords Fleet}
    (h : LocksAnswerAll p (earlier ++ later) w) :
    LocksAnswerAll p earlier w ∧ LocksAnswerAll p later (processed p earlier w) := by
  induction earlier generalizing w with
  | nil =>
      exact ⟨trivial, h⟩
  | cons body rest ih =>
      rcases ih h.2 with ⟨first, second⟩
      exact ⟨⟨h.1, first⟩, second⟩

/-! ## A claim that is kept -/

/-- A claim is kept by every delivery that meets it before it expires. -/
theorem Course.get?_claims {body : Bytes} {now : Instant} {w w' : World L ClaimRecords Fleet}
    {result : Except DeliveryFault String} (h : Course p body now w result w')
    (found : w.claims.expiries.get? eventId = some expiry) (live : now < expiry) :
    w'.claims.expiries.get? eventId = some expiry := by
  have swept := ClaimRecords.get?_sweep found live
  have claimed : w.claims.isLive eventId now = true := by
    simp [ClaimRecords.isLive, found, live]
  cases h with
  | unclaimed failed claims rockets =>
      rw [claims]
      exact found
  | refused failed claims rockets =>
      rw [claims]
      exact swept
  | dropped dropped other failed free claims rockets =>
      have apart : eventId ≠ dropped := by
        intro same
        rw [← same, claimed] at free
        cases free
      rw [claims]
      simp only [ClaimRecords.forget, Register.get?_erase, ClaimRecords.get?_record, if_neg apart]
      exact swept
  | applied event other h =>
      have apart : eventId ≠ event.eventId := by
        intro same
        have fresh := h.fresh
        rw [← same, claimed] at fresh
        cases fresh
      rw [h.claims, ClaimRecords.get?_record, if_neg apart]
      exact swept

/-- The claim on an event is on record, or the clock has reached its expiry. -/
def Reserved (readings : Supply Instant) (eventId : String) (expiry : Instant)
    (w : World L ClaimRecords Fleet) : Prop :=
  ∃ taken, w.clock = .going (readings.drop taken) ∧
    (expiry ≤ readings taken ∨ w.claims.expiries.get? eventId = some expiry)

theorem reserved_process (bus : p.bus = .ofHandlers handlers) (rising : readings.Rising)
    {body : Bytes} {w : World L ClaimRecords Fleet} (calm : LocksAnswer (p.process body) w)
    (h : Reserved readings eventId expiry w) :
    Reserved readings eventId expiry (play (p.process body) w).2 := by
  rcases h with ⟨taken, clock, kept⟩
  rcases clock_play (Processor.only_process bus body) clock with ⟨more, later⟩
  rw [Supply.drop_drop] at later
  refine ⟨more + taken, later, ?_⟩
  rcases kept with expired | found
  · left
    exact Instant.le_trans expired (rising.le (Nat.le_add_left taken more))
  · by_cases live : readings taken < expiry
    · right
      have reads : w.clock.read = .returned (readings taken) := by
        rw [clock]
        simp [Clock.read, Supply.first, Supply.drop]
      rcases process_course bus reads calm with ⟨result, w', played, course⟩
      rw [played]
      exact course.get?_claims found live
    · left
      exact Instant.le_trans (Instant.not_lt.mp live) (rising.le (Nat.le_add_left taken more))

theorem reserved_processed (bus : p.bus = .ofHandlers handlers) (rising : readings.Rising)
    {bodies : List Bytes} {w : World L ClaimRecords Fleet} (calm : LocksAnswerAll p bodies w)
    (h : Reserved readings eventId expiry w) :
    Reserved readings eventId expiry (processed p bodies w) := by
  induction bodies generalizing w with
  | nil =>
      exact h
  | cons body rest ih =>
      exact ih calm.2 (reserved_process bus rising calm.1 h)

theorem clock_processed (bus : p.bus = .ofHandlers handlers) {bodies : List Bytes}
    {w : World L ClaimRecords Fleet} {start : Nat}
    (clock : w.clock = .going (readings.drop start)) :
    ∃ taken, (processed p bodies w).clock = .going (readings.drop taken) := by
  induction bodies generalizing w start with
  | nil =>
      exact ⟨start, clock⟩
  | cons body rest ih =>
      rcases clock_play (Processor.only_process bus body) clock with ⟨more, later⟩
      rw [Supply.drop_drop] at later
      exact ih later

/-! ## Applied twice -/

/-- A delivery tells of an event and is applied. -/
def Applies (p : Processor) (eventId : String) (body : Bytes) (w : World L ClaimRecords Fleet) :
    Prop :=
  ∃ event result, RocketEvent.ofBody body = .ok event ∧ event.eventId = eventId ∧
    (play (p.process body) w).1 = .returned result ∧ Processor.isApplied result = true

/-- The readings of the clock that claims are made with while a delivery is processed. -/
def claimReadings (p : Processor) (body : Bytes) (w : World L ClaimRecords Fleet) :
    List (Outcome Instant) :=
  (moments (p.process body) w).filterMap Moment.claimReading?

theorem applied_of_applies (bus : p.bus = .ofHandlers handlers) {body : Bytes}
    {w : World L ClaimRecords Fleet} {taken : Nat} (clock : w.clock = .going (readings.drop taken))
    (calm : LocksAnswer (p.process body) w) (h : Applies p eventId body w) :
    ∃ expiry, claimReadings p body w = [.returned (readings taken)] ∧
      w.claims.isLive eventId (readings taken) = false ∧
      (readings taken).after? p.retention = some expiry ∧
      (play (p.process body) w).2.claims.expiries.get? eventId = some expiry := by
  have reads : w.clock.read = .returned (readings taken) := by
    rw [clock]
    simp [Clock.read, Supply.first, Supply.drop]
  rcases h with ⟨event, result, resolved, same, told, succeeded⟩
  rcases process_course bus reads calm with ⟨result', w', played, course⟩
  rw [played] at told ⊢
  cases told
  rcases course.exists_applied succeeded with ⟨event', expiry, applied⟩
  have resolved' := applied.resolved
  rw [resolved] at resolved'
  cases resolved'
  cases same
  exact ⟨expiry, applied.reading, applied.fresh, applied.expires, applied.claimed⟩

/--
Two deliveries of one event that are both applied claim it at least the retention apart, whatever
is delivered between them.
-/
theorem applied_twice_apart (p : Processor) (handlers : List (String × EventHandler))
    (bus : p.bus = .ofHandlers handlers) (earlier between : List Bytes) (first second : Bytes)
    (w : World L ClaimRecords Fleet) (readings : Supply Instant)
    (going : w.clock = .going readings) (rising : readings.Rising)
    (calm : LocksAnswerAll p (earlier ++ first :: (between ++ [second])) w) (eventId : String)
    (appliedFirst : Applies p eventId first (processed p earlier w))
    (appliedSecond : Applies p eventId second (processed p (earlier ++ first :: between) w)) :
    ∃ start finish expiry,
      claimReadings p first (processed p earlier w) = [.returned start] ∧
      claimReadings p second (processed p (earlier ++ first :: between) w) =
        [.returned finish] ∧
      start.after? p.retention = some expiry ∧ expiry ≤ finish ∧
      (start.nanosecond < 1000000000 →
        start.nanoseconds + p.retention.nanoseconds ≤ finish.nanoseconds) := by
  have fromStart : w.clock = .going (readings.drop 0) := going
  rcases locksAnswerAll_append calm with ⟨_, calmFirst, calmLater⟩
  rcases locksAnswerAll_append calmLater with ⟨calmBetween, calmSecond, _⟩
  rcases clock_processed bus fromStart with ⟨taken, clockFirst⟩
  rcases applied_of_applies bus clockFirst calmFirst appliedFirst with
    ⟨expiry, readFirst, _, expires, kept⟩
  rcases clock_play (Processor.only_process bus first) clockFirst with ⟨more, clockBetween⟩
  rw [Supply.drop_drop] at clockBetween
  have reserved : Reserved readings eventId expiry
      (processed p between (play (p.process first) (processed p earlier w)).2) :=
    reserved_processed bus rising calmBetween ⟨_, clockBetween, .inr kept⟩
  rw [processed_append] at appliedSecond ⊢
  rcases reserved with ⟨later, clockSecond, reached⟩
  rcases applied_of_applies bus clockSecond calmSecond appliedSecond with
    ⟨_, readSecond, free, _, _⟩
  have apart : expiry ≤ readings later := by
    rcases reached with expired | found
    · exact expired
    · apply Instant.not_lt.mp
      intro live
      simp [ClaimRecords.isLive, found, live] at free
  refine ⟨readings taken, readings later, expiry, readFirst, readSecond, expires, apart, ?_⟩
  intro regular
  rcases Instant.after?_regular regular expires with ⟨regularExpiry, distance⟩
  rw [← distance]
  exact Instant.nanoseconds_le regularExpiry apart

def striding : World AnyLocks ClaimRecords Fleet :=
  { locks := .leases {}
    claims := .start .epoch
    rockets := oneRocket
    clock := .going fun n => ⟨5 * n, 0⟩ }

def dispatcher : Processor :=
  { bus := .full .notAfter, retention := .ofSeconds 29 }

theorem acceleration_applied_twice :
    Applies dispatcher acceleration.eventId accelerationBody striding ∧
      Applies dispatcher acceleration.eventId accelerationBody
        (processed dispatcher (accelerationBody :: .replicate 3 accelerationBody) striding) ∧
      ∃ start finish expiry,
        claimReadings dispatcher accelerationBody striding = [.returned start] ∧
        claimReadings dispatcher accelerationBody
          (processed dispatcher (accelerationBody :: .replicate 3 accelerationBody) striding) =
            [.returned finish] ∧
        start.after? (.ofSeconds 29) = some expiry ∧ expiry ≤ finish := by
  have bus : dispatcher.bus =
      .ofHandlers (EventType.all.map fun type => (type.name, .ofType .notAfter type)) := rfl
  have script := dispatcher.process_of_ok acceleration ofBody_accelerationBody
  have rising : Supply.Rising fun n => (⟨5 * n, 0⟩ : Instant) := by
    intro n
    left
    show 5 * (n : Int) < 5 * ((n + 1 : Nat) : Int)
    omega
  have calm : LocksAnswerAll dispatcher (accelerationBody ::
      (.replicate 3 accelerationBody ++ [accelerationBody])) striding := by
    simp only [List.replicate, List.cons_append, List.nil_append, LocksAnswerAll, LocksAnswer,
      script]
    decide +kernel
  have applies (w : World AnyLocks ClaimRecords Fleet)
      (told : (play (dispatcher.process accelerationBody) w).1.map Processor.isApplied =
        .returned true) : Applies dispatcher acceleration.eventId accelerationBody w := by
    cases outcome : (play (dispatcher.process accelerationBody) w).1 with
    | panicked message =>
        rw [outcome] at told
        cases told
    | returned result =>
        rw [outcome] at told
        exact ⟨acceleration, result, ofBody_accelerationBody, rfl, outcome,
          Outcome.returned.inj told⟩
  have first : Applies dispatcher acceleration.eventId accelerationBody striding := by
    apply applies
    rw [script]
    decide +kernel
  have second : Applies dispatcher acceleration.eventId accelerationBody
      (processed dispatcher (accelerationBody :: .replicate 3 accelerationBody) striding) := by
    apply applies
    simp only [List.replicate, processed, script]
    decide +kernel
  rcases applied_twice_apart dispatcher _ bus [] (.replicate 3 accelerationBody) accelerationBody
    accelerationBody striding _ rfl rising calm acceleration.eventId first second with
    ⟨start, finish, expiry, readFirst, readSecond, expires, apart, _⟩
  exact ⟨first, second, start, finish, expiry, readFirst, readSecond, expires, apart⟩

end World
end MissionControl
