import Mathlib.Order.Bounds.Defs
import MissionControl.Proofs.Rocket.Batches
import MissionControl.Proofs.Time.Distance

/-!
# What a guard admits

A guard compares each change with the last one that counted, and so with all that came before: the
time of a rocket is the furthest that it was ever told of, and a change counts if its time goes
beyond all earlier ones.  The first deletion that counts ends this, and nothing counts after it.
-/

namespace MissionControl

/-! ## Furthest times -/

namespace Guard

variable {guard : Guard} {times : Set Instant} {time other updatedAt : Instant}

/-- The time among some that the guard moves towards: the first of them, or the last. -/
def IsFurthest (guard : Guard) (times : Set Instant) (time : Instant) : Prop :=
  match guard with
  | notAfter => IsLeast times time
  | strictlyAfter => IsGreatest times time

theorem isFurthest_iff :
    guard.IsFurthest times time ↔ time ∈ times ∧ ∀ other ∈ times, guard.Leads other time := by
  cases guard with
  | notAfter =>
      exact Iff.rfl
  | strictlyAfter =>
      exact Iff.rfl

theorem Leads.antisymm (h : guard.Leads time other) (back : guard.Leads other time) :
    time = other := by
  cases guard with
  | notAfter =>
      exact Instant.le_antisymm back h
  | strictlyAfter =>
      exact Instant.le_antisymm h back

theorem IsFurthest.unique (h : guard.IsFurthest times time)
    (also : guard.IsFurthest times other) : time = other := by
  rw [isFurthest_iff] at h also
  exact (also.2 time h.1).antisymm (h.2 other also.1)

theorem leads_of_not_admits (h : guard.admits time updatedAt = false) :
    guard.Leads time updatedAt := by
  cases guard with
  | notAfter =>
      have before : updatedAt < time := Instant.not_le.mp (of_decide_eq_false h)
      exact Instant.le_of_lt before
  | strictlyAfter =>
      have before : time ≤ updatedAt := Instant.not_lt.mp (of_decide_eq_false h)
      exact before

theorem admits_of_leads (h : guard.Leads other updatedAt)
    (admitted : guard.admits time updatedAt = true) : guard.admits time other = true := by
  cases guard with
  | notAfter =>
      have before : time ≤ updatedAt := of_decide_eq_true admitted
      exact decide_eq_true (Instant.le_trans before h)
  | strictlyAfter =>
      have after : updatedAt < time := of_decide_eq_true admitted
      exact decide_eq_true (Instant.lt_of_le_of_lt h after)

theorem IsFurthest.admits_iff (h : guard.IsFurthest times updatedAt) :
    guard.admits time updatedAt = true ↔ ∀ other ∈ times, guard.admits time other = true := by
  rw [isFurthest_iff] at h
  constructor
  · intro admitted other mem
    exact admits_of_leads (h.2 other mem) admitted
  · intro all
    exact all updatedAt h.1

end Guard

/-! ## Times of changes -/

def toldTimes (start : Instant) (changes : List Change) : Set Instant :=
  { time | time = start ∨ ∃ change ∈ changes, change.time = some time }

theorem toldTimes_perm (start : Instant) {changes reordered : List Change}
    (same : changes.Perm reordered) : toldTimes start changes = toldTimes start reordered := by
  unfold toldTimes
  simp only [same.mem_iff]

theorem Guard.IsFurthest.cons {guard : Guard} {start middle time : Instant} {change : Change}
    {rest : List Change} (first : guard.IsFurthest (toldTimes start [change]) middle)
    (others : guard.IsFurthest (toldTimes middle rest) time) :
    guard.IsFurthest (toldTimes start (change :: rest)) time := by
  rw [isFurthest_iff] at *
  constructor
  · rcases others.1 with rfl | ⟨last, mem, told⟩
    · rcases first.1 with same | ⟨only, mem, told⟩
      · exact .inl same
      · exact .inr ⟨only, List.mem_cons.mpr (.inl (List.mem_singleton.mp mem)), told⟩
    · exact .inr ⟨last, List.mem_cons_of_mem change mem, told⟩
  · have passes : guard.Leads middle time := others.2 middle (.inl rfl)
    rintro other (same | ⟨last, mem, told⟩)
    · exact (first.2 other (.inl same)).trans passes
    · rcases List.mem_cons.mp mem with here | mem
      · exact (first.2 other (.inr ⟨last, List.mem_singleton.mpr here, told⟩)).trans passes
      · exact others.2 other (.inr ⟨last, mem, told⟩)

namespace Rocket

variable {guard : Guard} {r : Rocket} {change : Change} {earlier later changes : List Change}

/-! ## One change -/

theorem admitted?_eq_some_iff {time : Instant} :
    r.admitted? guard change = some time ↔
      change.time = some time ∧ r.isDeleted = false ∧ guard.admits time r.updatedAt = true := by
  rw [admitted?, Option.filter_eq_some_iff, Bool.and_eq_true, Bool.not_eq_true']

theorem revise_of_not_admitted (h : r.admitted? guard change = none) :
    r.revise guard change = r := by
  unfold revise
  rw [h]

theorem furthest_revise (live : r.isDeleted = false) :
    guard.IsFurthest (toldTimes r.updatedAt [change]) (r.revise guard change).updatedAt := by
  rw [Guard.isFurthest_iff]
  cases counted : r.admitted? guard change with
  | some time =>
      rcases admitted?_eq_some_iff.mp counted with ⟨told, _, admitted⟩
      have moved : (r.revise guard change).updatedAt = time := by
        unfold revise
        rw [counted]
        exact r.updatedAt_edited change.edit time
      rw [moved]
      constructor
      · exact .inr ⟨change, List.mem_singleton_self change, told⟩
      · rintro other (rfl | ⟨only, mem, also⟩)
        · exact Guard.leads_of_admits admitted
        · rw [List.mem_singleton.mp mem, told] at also
          cases also
          exact guard.leads_refl time
  | none =>
      rw [revise_of_not_admitted counted]
      constructor
      · exact .inl rfl
      · rintro other (rfl | ⟨only, mem, told⟩)
        · exact guard.leads_refl r.updatedAt
        · rw [List.mem_singleton.mp mem] at told
          apply Guard.leads_of_not_admits
          by_contra admitted
          rw [Bool.not_eq_false] at admitted
          rw [admitted?_eq_some_iff.mpr ⟨told, live, admitted⟩] at counted
          cases counted

/-! ## The changes before the end -/

/-- The changes up to and with the first deletion that counts. -/
def effective (guard : Guard) (r : Rocket) : List Change → List Change
  | [] => []
  | change :: rest =>
      if change.edit = .deletion ∧ (r.admitted? guard change).isSome = true then
        [change]
      else
        change :: effective guard (r.revise guard change) rest

theorem effective_cons (live : r.isDeleted = false) (change : Change) (rest : List Change) :
    r.effective guard (change :: rest) =
      change :: if (r.revise guard change).isDeleted = true then []
        else (r.revise guard change).effective guard rest := by
  rw [effective]
  simp only [isDeleted_revise_iff live]
  split <;> rfl

theorem reviseAll_append (guard : Guard) (r : Rocket) (earlier later : List Change) :
    r.reviseAll guard (earlier ++ later) = (r.reviseAll guard earlier).reviseAll guard later :=
  List.foldl_append

/-- The time of a rocket is the furthest of those it was told of before its end. -/
theorem furthest_reviseAll (guard : Guard) (live : r.isDeleted = false) (changes : List Change) :
    guard.IsFurthest (toldTimes r.updatedAt (r.effective guard changes))
      (r.reviseAll guard changes).updatedAt := by
  induction changes generalizing r with
  | nil =>
      rw [Guard.isFurthest_iff]
      constructor
      · exact .inl rfl
      · rintro other (rfl | ⟨none, mem, _⟩)
        · exact guard.leads_refl r.updatedAt
        · cases mem
  | cons change rest ih =>
      rw [effective_cons live, reviseAll_cons]
      cases ended : (r.revise guard change).isDeleted with
      | true =>
          -- the rest finds a deleted rocket and tells it nothing
          rw [reviseAll_of_isDeleted ended, if_pos rfl]
          exact furthest_revise live
      | false =>
          rw [if_neg Bool.false_ne_true]
          exact (furthest_revise live).cons (ih ended)

theorem length_lt_effective_iff (live : r.isDeleted = false) :
    earlier.length < (r.effective guard (earlier ++ change :: later)).length ↔
      (r.reviseAll guard earlier).isDeleted = false := by
  induction earlier generalizing r with
  | nil =>
      rw [List.nil_append, effective_cons live]
      exact ⟨fun _ => live, fun _ => Nat.succ_pos _⟩
  | cons first others ih =>
      rw [List.cons_append, effective_cons live, reviseAll_cons]
      cases ended : (r.revise guard first).isDeleted with
      | true =>
          rw [reviseAll_of_isDeleted ended, ended, if_pos rfl]
          simp
      | false =>
          rw [if_neg Bool.false_ne_true, ← ih ended]
          simp only [List.length_cons, Nat.succ_lt_succ_iff]

theorem effective_of_not_ends (unended : ¬r.Ends guard changes) :
    r.effective guard changes = changes := by
  induction changes generalizing r with
  | nil =>
      rfl
  | cons change rest ih =>
      rw [ends_cons_iff, not_or] at unended
      rw [effective, if_neg unended.1, ih unended.2]

theorem effective_of_live (live : r.isDeleted = false)
    (still : (r.reviseAll guard changes).isDeleted = false) :
    r.effective guard changes = changes := by
  apply effective_of_not_ends
  rw [← isDeleted_reviseAll_iff live, still]
  exact Bool.false_ne_true

theorem effective_of_deletion (live : r.isDeleted = false) (deletes : change.edit = .deletion)
    (counted : ((r.reviseAll guard earlier).admitted? guard change).isSome = true) :
    r.effective guard (earlier ++ change :: later) = earlier ++ [change] := by
  induction earlier generalizing r with
  | nil =>
      exact if_pos ⟨deletes, counted⟩
  | cons first others ih =>
      rw [reviseAll_cons] at counted
      rw [List.cons_append, effective_cons live, List.cons_append]
      cases ended : (r.revise guard first).isDeleted with
      | true =>
          rw [reviseAll_of_isDeleted ended] at counted
          rcases Option.isSome_iff_exists.mp counted with ⟨time, admitted⟩
          rw [(admitted?_eq_some_iff.mp admitted).2.1] at ended
          cases ended
      | false =>
          rw [if_neg Bool.false_ne_true, ih ended counted]

/-! ## Whole histories -/

/-- A change counts if it comes before the end and its time goes beyond all earlier ones. -/
theorem admitted?_reviseAll_iff (live : r.isDeleted = false) (later : List Change)
    {time : Instant} :
    (r.reviseAll guard earlier).admitted? guard change = some time ↔
      change.time = some time ∧
        earlier.length < (r.effective guard (earlier ++ change :: later)).length ∧
        ∀ other ∈ toldTimes r.updatedAt earlier, guard.admits time other = true := by
  rw [admitted?_eq_some_iff, length_lt_effective_iff live]
  refine and_congr_right fun _ => and_congr_right fun still => ?_
  -- while the rocket lives every earlier change is effective, so its time is furthest of them all
  have furthest : guard.IsFurthest (toldTimes r.updatedAt earlier)
      (r.reviseAll guard earlier).updatedAt := by
    have effective := furthest_reviseAll guard live earlier
    rwa [effective_of_live live still] at effective
  exact furthest.admits_iff

/-- What a guard makes of a whole history of changes to a rocket. -/
structure Guarded (guard : Guard) (r : Rocket) (changes : List Change) : Prop where
  /-- The effective changes are all changes, or those up to a deletion that counts. -/
  whole : ¬r.Ends guard changes → r.effective guard changes = changes
  ended : ∀ earlier change later, changes = earlier ++ change :: later →
    change.edit = .deletion → ((r.reviseAll guard earlier).admitted? guard change).isSome = true →
    r.effective guard changes = earlier ++ [change]
  furthest : guard.IsFurthest (toldTimes r.createdAt (r.effective guard changes))
    (r.reviseAll guard changes).updatedAt
  admitted : ∀ earlier change later time, changes = earlier ++ change :: later →
    ((r.reviseAll guard earlier).admitted? guard change = some time ↔
      change.time = some time ∧ earlier.length < (r.effective guard changes).length ∧
        ∀ other ∈ toldTimes r.createdAt earlier, guard.admits time other = true)
  refused : ∀ earlier change later, changes = earlier ++ change :: later →
    (r.reviseAll guard earlier).admitted? guard change = none ∨
      (r.effective guard changes).length ≤ earlier.length →
    r.reviseAll guard (earlier ++ [change]) = r.reviseAll guard earlier
  unordered : ∀ reordered, changes.Perm reordered →
    (∀ change ∈ changes, change.edit ≠ .deletion) →
    (r.reviseAll guard reordered).updatedAt = (r.reviseAll guard changes).updatedAt

theorem not_ends_of_undeleted (undeleted : ∀ change ∈ changes, change.edit ≠ .deletion) :
    ¬r.Ends guard changes := by
  rintro ⟨earlier, change, later, rfl, deletes, _⟩
  exact undeleted change (List.mem_append_right earlier List.mem_cons_self) deletes

theorem updatedAt_reviseAll_perm (live : r.isDeleted = false) {reordered : List Change}
    (same : changes.Perm reordered) (undeleted : ∀ change ∈ changes, change.edit ≠ .deletion) :
    (r.reviseAll guard reordered).updatedAt = (r.reviseAll guard changes).updatedAt := by
  have kept : ∀ change ∈ reordered, change.edit ≠ .deletion := by
    intro change mem
    exact undeleted change (same.mem_iff.mpr mem)
  have furthest := furthest_reviseAll guard live changes
  have also := furthest_reviseAll guard live reordered
  rw [effective_of_not_ends (not_ends_of_undeleted undeleted)] at furthest
  rw [effective_of_not_ends (not_ends_of_undeleted kept), ← toldTimes_perm _ same] at also
  exact also.unique furthest

/--
From its launch on, whatever changes of a rocket are asked for: its time is the furthest of those
it was told of before its end, and the changes that count are those that went beyond all others.
-/
theorem guarded_launch (guard : Guard) (id : RocketId) (rocketType : RocketType)
    (speed : LaunchSpeed) (mission : Mission) (time : Instant) (changes : List Change) :
    (launch id rocketType speed mission time).Guarded guard changes := by
  have live : (launch id rocketType speed mission time).isDeleted = false := rfl
  constructor
  case whole =>
    exact effective_of_not_ends
  case ended =>
    rintro earlier change later rfl deletes counted
    exact effective_of_deletion live deletes counted
  case furthest =>
    exact furthest_reviseAll guard live changes
  case admitted =>
    rintro earlier change later told rfl
    exact admitted?_reviseAll_iff live later
  case refused =>
    rintro earlier change later rfl refused
    rw [reviseAll_append]
    apply revise_of_not_admitted
    rcases refused with uncounted | past
    · exact uncounted
    · apply Option.eq_none_iff_forall_ne_some.mpr
      intro told counted
      have effective := ((admitted?_reviseAll_iff live later).mp counted).2.1
      omega
  case unordered =>
    intro reordered same undeleted
    exact updatedAt_reviseAll_perm live same undeleted

end Rocket
end MissionControl
