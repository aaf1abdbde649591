import MissionControl.Lock.Leases

/-!
# Owners of locks

Who owns a lock is told by the journal of a lock store: the bearer of the lease that was granted
last, unless it was given back since.  The leases in memory are just those that the journal tells
of, so a lock changes hands only where its owner gave it back or let it expire.
-/

namespace MissionControl

/-! ## Requests -/

inductive LeaseRequest where
  | acquire (name : String) (token : Token) (expiry : Duration)
  | release (name : String) (token : Token)
  | isHeld (name : String)
  deriving Repr, DecidableEq

namespace LeaseRequest

def name : LeaseRequest → String
  | acquire name _ _ => name
  | release name _ => name
  | isHeld name => name

/-- The end of the lease that is asked for can be told, as far as its expiry is a duration. -/
def Tellable (now : Instant) : LeaseRequest → Prop
  | acquire _ _ expiry =>
      expiry.nanoseconds ≤ Instant.longestShift → (now.after? expiry).isSome = true
  | _ => True

instance (now : Instant) : (request : LeaseRequest) → Decidable (request.Tellable now)
  | acquire _ _ expiry => inferInstanceAs
      (Decidable (expiry.nanoseconds ≤ Instant.longestShift → (now.after? expiry).isSome = true))
  | release _ _ => .isTrue trivial
  | isHeld _ => .isTrue trivial

end LeaseRequest

/-- A request that was served, with the reading that came with it and the reply. -/
structure LeaseEntry where
  time : Instant
  request : LeaseRequest
  reply : LockReply

namespace LeaseEntry

def grant? (entry : LeaseEntry) : Option (String × Lease) :=
  match entry.request, entry.reply with
  | .acquire name token expiry, .answers _ (.ok true) =>
      (entry.time.after? expiry).map fun expires => (name, ⟨token, expires⟩)
  | _, _ => none

def return? (entry : LeaseEntry) : Option (String × Token) :=
  match entry.request, entry.reply with
  | .release name token, .answers _ (.ok true) => some (name, token)
  | _, _ => none

theorem name_of_grant? {entry : LeaseEntry} {name : String} {lease : Lease}
    (granted : entry.grant? = some (name, lease)) : entry.request.name = name := by
  unfold grant? at granted
  split at granted
  · rename_i asked _
    rcases Option.map_eq_some_iff.mp granted with ⟨expires, _, same⟩
    rw [asked]
    exact congrArg (·.1) same
  · cases granted

theorem name_of_return? {entry : LeaseEntry} {name : String} {token : Token}
    (returned : entry.return? = some (name, token)) : entry.request.name = name := by
  unfold return? at returned
  split at returned
  · rename_i asked _
    rw [asked]
    exact congrArg (·.1) (Option.some.inj returned)
  · cases returned

/-- What an entry makes of the lease on a lock. -/
def leaves (name : String) (lease : Option Lease) (entry : LeaseEntry) : Option Lease :=
  match entry.grant?, entry.return? with
  | some (granted, fresh), _ => if granted = name then some fresh else lease
  | none, some (returned, _) => if returned = name then none else lease
  | none, none => lease

theorem leaves_of_elsewhere {entry : LeaseEntry} {name : String} {lease : Option Lease}
    (ungranted : ∀ fresh, entry.grant? ≠ some (name, fresh))
    (kept : ∀ token, entry.return? ≠ some (name, token)) : entry.leaves name lease = lease := by
  unfold leaves
  split
  · rename_i granted fresh grant
    rw [if_neg]
    intro same
    exact ungranted fresh (same ▸ grant)
  · rename_i returned token _ given
    rw [if_neg]
    intro same
    exact kept token (same ▸ given)
  · rfl

end LeaseEntry

/-- The lease that was granted last on a lock, if it was not given back since. -/
def lastLease? (name : String) (journal : List LeaseEntry) : Option Lease :=
  journal.foldl (LeaseEntry.leaves name) none

namespace Leases

def serve (now : Instant) (leases : Leases) : LeaseRequest → LockReply × Leases
  | .acquire name token expiry => leases.acquire name token expiry now
  | .release name token => leases.release name token now
  | .isHeld name => (.now (leases.isHeld name now), leases)

def entry (now : Instant) (leases : Leases) (request : LeaseRequest) : LeaseEntry :=
  ⟨now, request, (leases.serve now request).1⟩

def served (leases : Leases) : List (Instant × LeaseRequest) → Leases
  | [] => leases
  | (now, request) :: rest => (leases.serve now request).2.served rest

def journal (leases : Leases) : List (Instant × LeaseRequest) → List LeaseEntry
  | [] => []
  | (now, request) :: rest =>
      leases.entry now request :: (leases.serve now request).2.journal rest

variable {leases : Leases} {name : String} {now : Instant}

/-! ## One request -/

inductive Acquired (name : String) (token : Token) (expiry : Duration) (now : Instant)
    (leases : Leases) : LockReply × Leases → Prop where
  | failed (fault : LockFault) : Acquired name token expiry now leases (.now (.error fault), leases)
  | refused : Acquired name token expiry now leases (.now (.ok false), leases)
  | granted {expires : Instant} :
      (∀ lease, leases.granted.get? name = some lease → lease.isLive now = true →
        lease.token = token) →
      now.after? expiry = some expires →
      Acquired name token expiry now leases
        (.now (.ok true), { leases with granted := leases.granted.put name ⟨token, expires⟩ })
  | broke (message : String) : Acquired name token expiry now leases
      (.panics message, { leases with isBroken := true })

theorem acquired_acquire (name : String) (token : Token) (expiry : Duration) (now : Instant)
    (leases : Leases) :
    Acquired name token expiry now leases (leases.acquire name token expiry now) := by
  unfold acquire
  split
  · exact .failed invalidExpiry
  · split
    · exact .failed broken
    · split
      · exact .refused
      · rename_i free
        split
        · rename_i expires after
          refine .granted ?_ after
          intro lease found live
          rw [found] at free
          simpa [live] using free
        · exact .broke Instant.overflow

inductive Released (name : String) (token : Token) (now : Instant) (leases : Leases) :
    LockReply × Leases → Prop where
  | failed (fault : LockFault) : Released name token now leases (.now (.error fault), leases)
  | refused : Released name token now leases (.now (.ok false), leases)
  | returned {lease : Lease} : leases.granted.get? name = some lease → lease.token = token →
      now < lease.expires →
      Released name token now leases
        (.now (.ok true), { leases with granted := leases.granted.erase name })

theorem released_release (name : String) (token : Token) (now : Instant) (leases : Leases) :
    Released name token now leases (leases.release name token now) := by
  unfold release
  split
  · exact .failed broken
  · split
    · rename_i borne
      cases found : leases.granted.get? name with
      | none =>
          rw [found] at borne
          cases borne
      | some lease =>
          rw [found] at borne
          rcases Bool.and_eq_true_iff.mp borne with ⟨live, own⟩
          exact .returned found (of_decide_eq_true own) (of_decide_eq_true live)
    · exact .refused

/-- After a request the lease on a lock is the one that the entry leaves. -/
theorem get?_serve (name : String) (now : Instant) (leases : Leases) (request : LeaseRequest) :
    (leases.serve now request).2.granted.get? name =
      (leases.entry now request).leaves name (leases.granted.get? name) := by
  cases request with
  | acquire asked token expiry =>
      have acquired := acquired_acquire asked token expiry now leases
      simp only [entry, serve]
      generalize leases.acquire asked token expiry now = told at acquired ⊢
      cases acquired with
      | failed fault =>
          rfl
      | refused =>
          rfl
      | granted free after =>
          simp [LeaseEntry.leaves, LeaseEntry.grant?, LockReply.now, after, eq_comm]
      | broke message =>
          rfl
  | release asked token =>
      have released := released_release asked token now leases
      simp only [entry, serve]
      generalize leases.release asked token now = told at released ⊢
      cases released with
      | failed fault =>
          rfl
      | refused =>
          rfl
      | returned found own live =>
          simp [LeaseEntry.leaves, LeaseEntry.grant?, LeaseEntry.return?, LockReply.now, eq_comm]
  | isHeld asked =>
      rfl

theorem get?_serve_of_ne {request : LeaseRequest} (elsewhere : request.name ≠ name) :
    (leases.serve now request).2.granted.get? name = leases.granted.get? name := by
  rw [get?_serve]
  apply LeaseEntry.leaves_of_elsewhere
  · intro fresh granted
    exact elsewhere (LeaseEntry.name_of_grant? granted)
  · intro token returned
    exact elsewhere (LeaseEntry.name_of_return? returned)

theorem expires_le_of_grant? {request : LeaseRequest} {held fresh : Lease}
    (granted : (leases.entry now request).grant? = some (name, fresh))
    (found : leases.granted.get? name = some held) (apart : held.token ≠ fresh.token) :
    held.expires ≤ now := by
  cases request with
  | acquire asked token expiry =>
      have acquired := acquired_acquire asked token expiry now leases
      simp only [entry, serve] at granted
      generalize leases.acquire asked token expiry now = told at acquired granted
      cases acquired with
      | failed fault =>
          cases granted
      | refused =>
          cases granted
      | granted free after =>
          simp only [LeaseEntry.grant?, LockReply.now, after] at granted
          cases granted
          apply Instant.not_lt.mp
          intro live
          exact apart (free held found (decide_eq_true live))
      | broke message =>
          cases granted
  | release asked token =>
      cases granted
  | isHeld asked =>
      cases granted

theorem lease_of_return? {request : LeaseRequest} {token : Token}
    (returned : (leases.entry now request).return? = some (name, token)) :
    ∃ lease, leases.granted.get? name = some lease ∧ lease.token = token ∧ now < lease.expires := by
  cases request with
  | acquire asked bearer expiry =>
      cases returned
  | release asked bearer =>
      have released := released_release asked bearer now leases
      simp only [entry, serve] at returned
      generalize leases.release asked bearer now = told at released returned
      cases released with
      | failed fault =>
          cases returned
      | refused =>
          cases returned
      | returned found own live =>
          cases returned
          exact ⟨_, found, own, live⟩
  | isHeld asked =>
      cases returned

theorem isBroken_serve {request : LeaseRequest} (whole : leases.isBroken = false)
    (tellable : request.Tellable now) : (leases.serve now request).2.isBroken = false := by
  cases request with
  | acquire asked token expiry =>
      simp only [serve, acquire]
      split
      · exact whole
      · rename_i short
        split
        · exact whole
        · split
          · exact whole
          · split
            · exact whole
            · rename_i after
              have told := tellable (Nat.not_lt.mp short)
              rw [after] at told
              cases told
  | release asked token =>
      have released := released_release asked token now leases
      simp only [serve]
      generalize leases.release asked token now = told at released ⊢
      cases released <;> exact whole
  | isHeld asked =>
      exact whole

theorem serve_congr {other : Leases} {request : LeaseRequest} (whole : leases.isBroken = false)
    (wholeOther : other.isBroken = false)
    (same : leases.granted.get? request.name = other.granted.get? request.name) :
    (leases.serve now request).1 = (other.serve now request).1 := by
  cases request with
  | acquire asked token expiry =>
      have same : leases.granted.get? asked = other.granted.get? asked := same
      simp only [serve, acquire, whole, wholeOther, same]
      split
      · rfl
      · simp only [Bool.false_eq_true, if_false]
        split
        · rfl
        · cases now.after? expiry <;> rfl
  | release asked token =>
      have same : leases.granted.get? asked = other.granted.get? asked := same
      simp only [serve, release, whole, wholeOther, same]
      simp only [Bool.false_eq_true, if_false]
      split <;> rfl
  | isHeld asked =>
      have same : leases.granted.get? asked = other.granted.get? asked := same
      simp only [serve, isHeld, whole, wholeOther, same]

theorem acquire_of_undisputed {token : Token} {expiry : Duration} {expires : Instant}
    (whole : leases.isBroken = false)
    (undisputed : ∀ lease, leases.granted.get? name = some lease → lease.isLive now = true →
      lease.token = token)
    (short : expiry.nanoseconds ≤ Instant.longestShift)
    (after : now.after? expiry = some expires) :
    leases.acquire name token expiry now =
      (.now (.ok true), { leases with granted := leases.granted.put name ⟨token, expires⟩ }) := by
  unfold acquire
  rw [if_neg (Nat.not_lt.mpr short), whole, if_neg Bool.false_ne_true, if_neg, after]
  cases found : leases.granted.get? name with
  | none =>
      exact Bool.false_ne_true
  | some lease =>
      simpa using undisputed lease found

theorem release_of_whole (name : String) (token : Token) (now : Instant)
    (whole : leases.isBroken = false) :
    ∃ given, leases.release name token now =
        (.now (.ok given),
          if given then { leases with granted := leases.granted.erase name } else leases) ∧
      (given = true ↔ ∃ lease, leases.granted.get? name = some lease ∧ lease.token = token ∧
        now < lease.expires) := by
  refine ⟨(leases.granted.get? name).any fun lease => lease.isLive now && lease.token = token,
    ?_, ?_⟩
  · unfold release
    rw [whole, if_neg Bool.false_ne_true]
    split
    · rename_i borne
      rw [borne]
    · rename_i unborne
      rw [eq_false_of_ne_true unborne]
  · cases leases.granted.get? name with
    | none =>
        simp
    | some lease =>
        simp [Lease.isLive, and_comm]

/-! ## Any run -/

theorem get?_served (name : String) (leases : Leases) (calls : List (Instant × LeaseRequest)) :
    (leases.served calls).granted.get? name =
      (leases.journal calls).foldl (LeaseEntry.leaves name) (leases.granted.get? name) := by
  induction calls generalizing leases with
  | nil =>
      rfl
  | cons call rest ih =>
      rw [served, journal, List.foldl_cons, ih, get?_serve]

theorem isBroken_served {calls : List (Instant × LeaseRequest)} (whole : leases.isBroken = false)
    (tellable : ∀ call ∈ calls, call.2.Tellable call.1) :
    (leases.served calls).isBroken = false := by
  induction calls generalizing leases with
  | nil =>
      exact whole
  | cons call rest ih =>
      rcases List.forall_mem_cons.mp tellable with ⟨first, others⟩
      exact ih (isBroken_serve whole first) others

theorem journal_eq_append_cons {calls : List (Instant × LeaseRequest)}
    {earlier later : List LeaseEntry} {entry : LeaseEntry}
    (split : leases.journal calls = earlier ++ entry :: later) :
    ∃ before now request after, leases.journal before = earlier ∧
      (leases.served before).entry now request = entry ∧
      ((leases.served before).serve now request).2.journal after = later := by
  induction earlier generalizing leases calls with
  | nil =>
      cases calls with
      | nil =>
          cases split
      | cons call rest =>
          cases split
          exact ⟨[], call.1, call.2, rest, rfl, rfl, rfl⟩
  | cons first earlier ih =>
      cases calls with
      | nil =>
          cases split
      | cons call rest =>
          rcases List.cons.inj split with ⟨rfl, rest⟩
          rcases ih rest with ⟨before, now, request, after, same, last, others⟩
          exact ⟨call :: before, now, request, after, congrArg _ same, last, others⟩

/--
From a lease on, the next grant of the lock to another bearer comes after the lease was given back
or had expired.
-/
theorem returned_or_expired {calls : List (Instant × LeaseRequest)}
    {between later : List LeaseEntry} {second : LeaseEntry} {held fresh : Lease}
    (found : leases.granted.get? name = some held)
    (split : leases.journal calls = between ++ second :: later)
    (granted : second.grant? = some (name, fresh)) (apart : held.token ≠ fresh.token)
    (latest : ∀ entry ∈ between, ∀ lease, entry.grant? = some (name, lease) →
      held.token ≠ lease.token) :
    (∃ entry ∈ between, entry.return? = some (name, held.token)) ∨
      ∃ entry ∈ between ++ [second], (∃ lease, entry.grant? = some (name, lease)) ∧
        held.expires ≤ entry.time := by
  induction between generalizing leases calls with
  | nil =>
      right
      rcases journal_eq_append_cons split with ⟨before, now, request, _, start, rfl, _⟩
      cases before with
      | nil =>
          exact ⟨_, List.mem_singleton_self _, ⟨fresh, granted⟩,
            expires_le_of_grant? granted found apart⟩
      | cons call rest =>
          cases start
  | cons entry between ih =>
      cases calls with
      | nil =>
          cases split
      | cons call rest =>
          rcases List.cons.inj split with ⟨rfl, others⟩
          rcases List.forall_mem_cons.mp latest with ⟨other, latest⟩
          by_cases regranted : ∃ lease, (leases.entry call.1 call.2).grant? = some (name, lease)
          · -- no one else is granted the lock before the lease has expired
            right
            rcases regranted with ⟨lease, regranted⟩
            exact ⟨_, List.mem_cons_self, ⟨lease, regranted⟩,
              expires_le_of_grant? regranted found (other lease regranted)⟩
          by_cases returned : ∃ token, (leases.entry call.1 call.2).return? = some (name, token)
          · -- no one else gives the lock back
            left
            rcases returned with ⟨token, returned⟩
            rcases lease_of_return? returned with ⟨lease, same, own, _⟩
            cases found.symm.trans same
            exact ⟨_, List.mem_cons_self, own ▸ returned⟩
          · have kept : (leases.serve call.1 call.2).2.granted.get? name = some held := by
              rw [get?_serve, LeaseEntry.leaves_of_elsewhere
                (fun lease grant => regranted ⟨lease, grant⟩)
                (fun token given => returned ⟨token, given⟩), found]
            rcases ih kept others latest with ⟨entry, mem, given⟩ | ⟨entry, mem, expired⟩
            · exact .inl ⟨entry, List.mem_cons_of_mem _ mem, given⟩
            · exact .inr ⟨entry, List.mem_cons_of_mem _ mem, expired⟩

theorem filter_journal {other : Leases} {calls : List (Instant × LeaseRequest)}
    (whole : leases.isBroken = false) (wholeOther : other.isBroken = false)
    (same : leases.granted.get? name = other.granted.get? name)
    (tellable : ∀ call ∈ calls, call.2.Tellable call.1) :
    (leases.journal calls).filter (·.request.name = name) =
      other.journal (calls.filter (·.2.name = name)) := by
  induction calls generalizing leases other with
  | nil =>
      rfl
  | cons call rest ih =>
      rcases List.forall_mem_cons.mp tellable with ⟨first, others⟩
      have stays := isBroken_serve whole first
      by_cases about : call.2.name = name
      · have reply : (leases.serve call.1 call.2).1 = (other.serve call.1 call.2).1 :=
          serve_congr whole wholeOther (about ▸ same)
        have entries : leases.entry call.1 call.2 = other.entry call.1 call.2 := by
          rw [entry, entry, reply]
        rw [List.filter_cons_of_pos (by simp [about]), journal, journal, entries,
          List.filter_cons_of_pos (by simp [entry, about])]
        refine congrArg _ (ih stays (isBroken_serve wholeOther first) ?_ others)
        rw [get?_serve, get?_serve, entries, same]
      · rw [List.filter_cons_of_neg (by simp [about]), journal,
          List.filter_cons_of_neg (by simp [entry, about])]
        refine ih stays wholeOther ?_ others
        rw [get?_serve_of_ne about, same]

/-- What owners of locks may rely on, once some calls were made on a lock store. -/
structure Tenured (calls : List (Instant × LeaseRequest)) : Prop where
  told : ∀ name, (({} : Leases).served calls).granted.get? name =
    lastLease? name (({} : Leases).journal calls)
  /-- A lock goes to another bearer after it was given back or a grant came past its expiry. -/
  takenOver : ∀ earlier between later first second name held fresh,
    ({} : Leases).journal calls = earlier ++ first :: (between ++ second :: later) →
    first.grant? = some (name, held) → second.grant? = some (name, fresh) →
    held.token ≠ fresh.token →
    (∀ entry ∈ between, ∀ lease, entry.grant? = some (name, lease) → held.token ≠ lease.token) →
    (∃ entry ∈ between, entry.return? = some (name, held.token)) ∨
      ∃ entry ∈ between ++ [second], (∃ lease, entry.grant? = some (name, lease)) ∧
        held.expires ≤ entry.time
  /-- The owner is granted the lock again, until the new expiry. -/
  renewed : ∀ now name expiry lease expires,
    lastLease? name (({} : Leases).journal calls) = some lease →
    expiry.nanoseconds ≤ Instant.longestShift → now.after? expiry = some expires →
    ∃ left, (({} : Leases).served calls).serve now (.acquire name lease.token expiry) =
        (.now (.ok true), left) ∧
      left.granted.get? name = some ⟨lease.token, expires⟩
  /-- A lock is taken back from its owner before it expires, and nothing is from anyone else. -/
  givenBack : ∀ now name token, ∃ given left,
    (({} : Leases).served calls).serve now (.release name token) = (.now (.ok given), left) ∧
      (given = true ↔ ∃ lease, lastLease? name (({} : Leases).journal calls) = some lease ∧
        lease.token = token ∧ now < lease.expires) ∧
      (given = false → left = ({} : Leases).served calls)
  /-- Calls about a lock are answered as if there were no others. -/
  apart : ∀ name, (({} : Leases).journal calls).filter (·.request.name = name) =
    ({} : Leases).journal (calls.filter (·.2.name = name))

/-- Locks change hands by their leases, whatever is asked for and however the clock moves. -/
theorem tenured (calls : List (Instant × LeaseRequest))
    (tellable : ∀ call ∈ calls, call.2.Tellable call.1) : Tenured calls := by
  have whole : (({} : Leases).served calls).isBroken = false := isBroken_served rfl tellable
  have told (name : String) : (({} : Leases).served calls).granted.get? name =
      lastLease? name (({} : Leases).journal calls) := get?_served name {} calls
  constructor
  case told =>
    exact told
  case takenOver =>
    intro earlier between later first second name held fresh split heldOne granted apart latest
    rcases journal_eq_append_cons split with ⟨before, now, request, after, _, rfl, rest⟩
    refine returned_or_expired ?_ rest granted apart latest
    rw [get?_serve, LeaseEntry.leaves, heldOne]
    exact if_pos rfl
  case renewed =>
    intro now name expiry lease expires last short after
    rw [← told] at last
    have own (other : Lease)
        (found : (({} : Leases).served calls).granted.get? name = some other)
        (_ : other.isLive now = true) : other.token = lease.token := by
      rw [last] at found
      cases found
      rfl
    exact ⟨_, acquire_of_undisputed whole own short after, by simp⟩
  case givenBack =>
    intro now name token
    rcases release_of_whole name token now whole with ⟨given, comes, iff⟩
    rw [told] at iff
    refine ⟨given, _, comes, iff, ?_⟩
    intro refused
    rw [refused]
    rfl
  case apart =>
    intro name
    exact filter_journal rfl rfl rfl tellable

def contested : List (Instant × LeaseRequest) :=
  [(⟨5, 0⟩, .acquire "a" (.named "x") (.ofSeconds 4)),
    (⟨3, 0⟩, .acquire "a" (.named "y") (.ofSeconds 9)),
    (⟨3, 0⟩, .acquire "a" (.named "x") (.ofSeconds 3)),
    (⟨5, 0⟩, .release "b" (.named "x")),
    (⟨6, 0⟩, .release "a" (.named "x")),
    (⟨6, 0⟩, .acquire "a" (.named "y") (.ofSeconds 9)),
    (⟨6, 0⟩, .release "a" (.named "x")),
    (⟨7, 0⟩, .isHeld "a"),
    (⟨7, 0⟩, .acquire "a" (.named "x") ⟨Instant.longestShift + 1⟩),
    (⟨7, 0⟩, .release "a" (.named "y"))]

theorem contested_tenured :
    (∀ call ∈ contested, call.2.Tellable call.1) ∧
      (({} : Leases).journal contested).map (·.reply) =
        [.now (.ok true), .now (.ok false), .now (.ok true), .now (.ok false), .now (.ok false),
          .now (.ok true), .now (.ok false), .now (.ok true), .now (.error invalidExpiry),
          .now (.ok true)] ∧
      Tenured contested := by
  have tellable : ∀ call ∈ contested, call.2.Tellable call.1 := by
    decide +kernel
  exact ⟨tellable, rfl, tenured contested tellable⟩

end Leases
end MissionControl
