import MissionControl.Proofs.World.Footprint

/-!
# Moments

The calls that a script makes in a world, in order, each with the world that it is made in.  What a
store truly answered is told by the world of the moment, and so is the reading that it was given,
also where the caller hears something else.
-/

namespace MissionControl

/-- A call with the world that it is made in. -/
structure Moment (L C R : Type) where
  world : World L C R
  call : Call

def LockReply.isPanic : LockReply → Bool
  | panics _ => true
  | _ => false

namespace World

variable {L C R : Type}

def lockReply? [LockStore L] (w : World L C R) : Call → Option LockReply
  | .acquire name token expiry _ =>
      some (LockStore.acquire name token expiry w.clock.read w.locks).1
  | .release name token _ => some (LockStore.release name token w.clock.read w.locks).1
  | _ => none

variable {α β : Type} [LockStore L] [ClaimStore C] [RocketStore R]

/-- The moments of playing a script. -/
def moments : Script α → World L C R → List (Moment L C R)
  | .done _, _ => []
  | .panicked _, _ => []
  | .call c next, w =>
      let served := w.serve c
      ⟨w, c⟩ :: moments (next served.reply) (served.world.waited served.wait)

end World

namespace Moment

variable {L C R : Type} [LockStore L]

def lockExchange? (m : Moment L C R) : Option (Call × LockReply) :=
  (m.world.lockReply? m.call).map fun reply => (m.call, reply)

theorem lockExchange?_eq_none {m : Moment L C R} (h : m.call.isOnLocks = false) :
    m.lockExchange? = none := by
  rcases m with ⟨w, c⟩
  cases c with
  | acquire name token expiry patience =>
      cases h
  | release name token patience =>
      cases h
  | _ =>
      rfl

end Moment

/-- The calls on the lock store, in order, with what the store answered. -/
def lockLog {L C R : Type} [LockStore L] (moments : List (Moment L C R)) :
    List (Call × LockReply) :=
  moments.filterMap Moment.lockExchange?

theorem lockLog_append {L C R : Type} [LockStore L] (earlier later : List (Moment L C R)) :
    lockLog (earlier ++ later) = lockLog earlier ++ lockLog later :=
  List.filterMap_append

namespace World

variable {L C R : Type} {α β : Type} [LockStore L] [ClaimStore C] [RocketStore R]

/-- No call on the lock store panics while a script is played. -/
def LocksAnswer (s : Script α) (w : World L C R) : Prop :=
  ∀ exchange ∈ lockLog (moments s w), exchange.2.isPanic = false

/-! ## Laws -/

theorem moments_done (value : α) (w : World L C R) : moments (.done value) w = [] := rfl

theorem moments_call (c : Call) (next : Outcome c.Reply → Script α) (w : World L C R) :
    moments (.call c next) w =
      ⟨w, c⟩ :: moments (next (w.serve c).reply) ((w.serve c).world.waited (w.serve c).wait) :=
  rfl

/-- The moments of a script that goes on are those of its parts, as far as it is played. -/
theorem moments_bind (s : Script α) (f : α → Script β) (w : World L C R) :
    moments (s.bind f) w =
      moments s w ++
        match play s w with
        | (.returned value, w) => moments (f value) w
        | (.panicked _, _) => [] := by
  induction s generalizing w with
  | done value =>
      rfl
  | panicked message =>
      rfl
  | call c next ih =>
      rw [Script.bind_call, moments_call, moments_call, ih, List.cons_append, play_call]

theorem moments_bind_of_returned {s : Script α} {f : α → Script β} {w w' : World L C R}
    {value : α} (h : play s w = (.returned value, w')) :
    moments (s.bind f) w = moments s w ++ moments (f value) w' := by
  rw [moments_bind, h]

theorem play_bind_of_returned {s : Script α} {f : α → Script β} {w w' : World L C R} {value : α}
    (h : play s w = (.returned value, w')) : play (s.bind f) w = play (f value) w' := by
  rw [play_bind, h]

theorem play_bind_of_panicked {s : Script α} {f : α → Script β} {w w' : World L C R}
    {message : String} (h : play s w = (.panicked message, w')) :
    play (s.bind f) w = (.panicked message, w') := by
  rw [play_bind, h]

theorem play_bind_value (s : Script α) (f : α → β) (w : World L C R) :
    play (s.bind fun value => .done (f value)) w = ((play s w).1.map f, (play s w).2) := by
  rw [play_bind]
  cases play s w with
  | mk outcome next =>
      cases outcome <;> rfl

theorem moments_bind_value (s : Script α) (f : α → β) (w : World L C R) :
    moments (s.bind fun value => .done (f value)) w = moments s w := by
  rw [moments_bind]
  cases play s w with
  | mk outcome next =>
      cases outcome <;> exact List.append_nil _

theorem play_perform (c : Call) (w : World L C R) :
    play (Script.perform c) w =
      ((w.serve c).reply, (w.serve c).world.waited (w.serve c).wait) := by
  rw [Script.perform, play_call]
  cases (w.serve c).reply <;> rfl

theorem play_perform_bind_done (c : Call) (f : c.Reply → β) (w : World L C R) :
    play ((Script.perform c).bind fun reply => .done (f reply)) w =
      ((w.serve c).reply.map f, (w.serve c).world.waited (w.serve c).wait) := by
  rw [play_bind_value, play_perform]

theorem moments_perform (c : Call) (w : World L C R) :
    moments (Script.perform c) w = [⟨w, c⟩] := by
  rw [Script.perform, moments_call]
  cases (w.serve c).reply <;> rfl

theorem moments_perform_bind_done (c : Call) (f : c.Reply → β) (w : World L C R) :
    moments ((Script.perform c).bind fun reply => .done (f reply)) w = [⟨w, c⟩] := by
  rw [moments_bind_value, moments_perform]

theorem moments_outcome (s : Script α) (w : World L C R) :
    moments s.outcome w = moments s w := by
  induction s generalizing w with
  | done value =>
      rfl
  | panicked message =>
      rfl
  | call c next ih =>
      exact congrArg _ (ih _ _)

theorem moments_rest (w : World L C R) : moments Script.rest w = [⟨w, .pause 0⟩] := rfl

theorem moments_task (s : Script α) (w : World L C R) :
    moments s.task w = ⟨w, .pause 0⟩ :: moments s w ++ [⟨(play s w).2, .pause 0⟩] := by
  have h : s.task = Script.rest.bind fun _ => s.outcome.bind fun result =>
      Script.rest.bind fun _ => .done result := rfl
  rw [h, moments_bind_of_returned (play_rest w), moments_bind_of_returned (play_outcome s w),
    moments_bind_of_returned (play_rest _), moments_outcome, moments_rest, moments_rest,
    moments_done, List.append_nil]
  rfl

theorem allowed_of_mem_moments {allowed : Call → Prop} {s : Script α} (h : s.Only allowed)
    {w : World L C R} {m : Moment L C R} (mem : m ∈ moments s w) : allowed m.call := by
  induction s generalizing w with
  | done value =>
      cases mem
  | panicked message =>
      cases mem
  | call c next ih =>
      rw [moments_call] at mem
      rcases List.mem_cons.mp mem with first | later
      · rw [first]
        exact h.1
      · exact ih _ (h.2 _) later

theorem lockLog_eq_nil {s : Script α} (h : s.Only fun c => c.isOnLocks = false)
    (w : World L C R) : lockLog (moments s w) = [] :=
  List.filterMap_eq_nil_iff.mpr fun _ mem =>
    Moment.lockExchange?_eq_none (allowed_of_mem_moments h mem)

theorem LocksAnswer.of_append {s : Script α} {w : World L C R} (h : LocksAnswer s w)
    {earlier later : List (Moment L C R)} (split : moments s w = earlier ++ later) :
    (∀ exchange ∈ lockLog earlier, exchange.2.isPanic = false) ∧
      ∀ exchange ∈ lockLog later, exchange.2.isPanic = false := by
  unfold LocksAnswer at h
  rw [split, lockLog_append] at h
  exact ⟨fun exchange mem => h exchange (List.mem_append_left _ mem),
    fun exchange mem => h exchange (List.mem_append_right _ mem)⟩

theorem LocksAnswer.first {s : Script α} {f : α → Script β} {w : World L C R}
    (h : LocksAnswer (s.bind f) w) : LocksAnswer s w :=
  (h.of_append (moments_bind s f w)).1

theorem LocksAnswer.second {s : Script α} {f : α → Script β} {w w' : World L C R} {value : α}
    (h : LocksAnswer (s.bind f) w) (hs : play s w = (.returned value, w')) :
    LocksAnswer (f value) w' :=
  (h.of_append (moments_bind_of_returned hs)).2

theorem LocksAnswer.of_task {s : Script α} {w : World L C R} (h : LocksAnswer s.task w) :
    LocksAnswer s w :=
  fun exchange mem => h exchange (by
    rw [moments_task, List.cons_append, lockLog, List.filterMap_cons, List.filterMap_append]
    exact List.mem_append_left _ mem)

end World

end MissionControl
