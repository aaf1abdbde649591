import MissionControl.Pool
import MissionControl.Proofs.World.Moments

/-!
# Journals

The calls that the tasks of a pool make under a schedule, in order, each with the task that makes
it and the world that it is made in.  Who was granted a lock, and in which order, is told by the
journal, and so is what each task asked the store of rockets.
-/

namespace MissionControl

namespace Pool

variable {L C R α : Type}

def script? (pool : Pool L C R α) (index : Nat) : Option (Script α) :=
  pool.tasks[index]?.map Task.script

def moment? (pool : Pool L C R α) (index : Nat) : Option (Moment L C R) :=
  match pool.script? index with
  | some (.call c _) => some ⟨pool.world, c⟩
  | _ => none

variable {pool : Pool L C R α} {index : Nat} {c : Call} {next : Outcome c.Reply → Script α}

theorem script?_start (w : World L C R) (scripts : List (Script α)) (index : Nat) :
    (Pool.start w scripts).script? index = scripts[index]? := by
  simp only [script?, start, List.getElem?_map, Option.map_map]
  exact Option.map_id'

theorem script?_of_ended {value : α}
    (h : pool.tasks[index]?.bind Task.outcome? = some (.returned value)) :
    pool.script? index = some (.done value) := by
  rcases Option.bind_eq_some_iff.mp h with ⟨task, found, ended⟩
  unfold script?
  rw [found]
  unfold Task.outcome? at ended
  split at ended
  · rename_i script
    cases ended
    exact congrArg some script
  · cases ended
  · cases ended

theorem exists_of_moment? {m : Moment L C R} (h : pool.moment? index = some m) :
    ∃ next, pool.script? index = some (.call m.call next) ∧ m.world = pool.world := by
  unfold moment? at h
  split at h
  · rename_i c next script
    cases h
    exact ⟨next, script, rfl⟩
  · cases h

variable [LockStore L] [ClaimStore C] [RocketStore R]

/-- The calls of a schedule, each with the task that makes it. -/
def journal (pool : Pool L C R α) : List Nat → List (Nat × Moment L C R)
  | [] => []
  | index :: rest =>
      (pool.moment? index).toList.map (fun m => (index, m)) ++ (pool.step index).journal rest

/-! ## Steps -/

theorem world_step (h : pool.script? index = some (.call c next)) :
    (pool.step index).world = (pool.world.serve c).world := by
  unfold script? at h
  unfold step
  cases found : pool.tasks[index]? with
  | none =>
      rw [found] at h
      cases h
  | some task =>
      rw [found] at h
      simp only [stepTask, Option.some.inj h]

theorem script?_step (h : pool.script? index = some (.call c next)) (other : Nat) :
    (pool.step index).script? other =
      if other = index then some (next (pool.world.serve c).reply) else pool.script? other := by
  unfold script? at h ⊢
  unfold step
  cases found : pool.tasks[index]? with
  | none =>
      rw [found] at h
      cases h
  | some task =>
      rw [found] at h
      have short : index < pool.tasks.length := (List.getElem?_eq_some_iff.mp found).1
      simp only [stepTask, Option.some.inj h, List.getElem?_set]
      by_cases same : other = index
      · subst same
        simp [short]
      · simp [same, Ne.symm same]

theorem step_of_moment?_eq_none (h : pool.moment? index = none) : pool.step index = pool := by
  unfold moment? script? at h
  unfold step
  cases found : pool.tasks[index]? with
  | none =>
      rfl
  | some task =>
      rw [found] at h
      have same : (stepTask pool.world task).1 = pool.world ∧
          (stepTask pool.world task).2 = task := by
        unfold stepTask
        cases script : task.script with
        | done value =>
            exact ⟨rfl, rfl⟩
        | panicked message =>
            exact ⟨rfl, rfl⟩
        | call c next =>
            simp only [Option.map_some, script] at h
            cases h
      rcases List.getElem?_eq_some_iff.mp found with ⟨short, here⟩
      have kept : pool.tasks.set index task = pool.tasks := by
        rw [← here]
        exact List.set_getElem_self short
      show { world := (stepTask pool.world task).1,
             tasks := pool.tasks.set index (stepTask pool.world task).2 } = pool
      rw [same.1, same.2, kept]

/-! ## Reading a journal -/

def grant? (entry : Nat × Moment L C R) : Option Nat :=
  match entry.2.call with
  | .acquire name token expiry patience =>
      match (entry.2.world.serve (.acquire name token expiry patience)).reply with
      | .returned (.ok true) => some entry.1
      | _ => none
  | _ => none

def grants (journal : List (Nat × Moment L C R)) : List Nat :=
  journal.filterMap grant?

def rocketExchange? (index : Nat) (entry : Nat × Moment L C R) : Option Script.Exchange :=
  if entry.1 = index ∧ entry.2.call.isOnRockets = true then
    some ⟨entry.2.call, (entry.2.world.serve entry.2.call).reply⟩
  else
    none

def rocketExchanges (index : Nat) (journal : List (Nat × Moment L C R)) :
    List Script.Exchange :=
  journal.filterMap (rocketExchange? index)

theorem grant?_of_granted {index : Nat} {w : World L C R} {name : String} {token : Token}
    {expiry patience : Duration}
    (h : (w.serve (.acquire name token expiry patience)).reply = .returned (.ok true)) :
    grant? (index, ⟨w, .acquire name token expiry patience⟩) = some index := by
  simp only [grant?, h]

theorem grant?_of_refused {index : Nat} {w : World L C R} {name : String} {token : Token}
    {expiry patience : Duration}
    (h : (w.serve (.acquire name token expiry patience)).reply ≠ .returned (.ok true)) :
    grant? (index, ⟨w, .acquire name token expiry patience⟩) = none := by
  unfold grant?
  dsimp only
  split
  · rename_i granted
    exact absurd granted h
  · rfl

theorem grant?_of_isOnLocks {index : Nat} {w : World L C R} {c : Call}
    (h : c.isOnLocks = false) : grant? (index, ⟨w, c⟩) = none := by
  cases c with
  | acquire name token expiry patience =>
      cases h
  | _ =>
      rfl

theorem grants_concat_of_eq_none {journal : List (Nat × Moment L C R)}
    {entry : Nat × Moment L C R} (h : grant? entry = none) :
    grants (journal ++ [entry]) = grants journal := by
  simp [grants, h]

theorem grants_concat_of_eq_some {journal : List (Nat × Moment L C R)}
    {entry : Nat × Moment L C R} {index : Nat} (h : grant? entry = some index) :
    grants (journal ++ [entry]) = grants journal ++ [index] := by
  simp [grants, h]

theorem rocketExchanges_append (index : Nat) (earlier later : List (Nat × Moment L C R)) :
    rocketExchanges index (earlier ++ later) =
      rocketExchanges index earlier ++ rocketExchanges index later :=
  List.filterMap_append

theorem rocketExchanges_concat_of_isOnRockets {index : Nat} {journal : List (Nat × Moment L C R)}
    {w : World L C R} {c : Call} (onRockets : c.isOnRockets = true) (i : Nat) :
    rocketExchanges i (journal ++ [(index, ⟨w, c⟩)]) =
      if i = index then rocketExchanges i journal ++ [⟨c, (w.serve c).reply⟩]
      else rocketExchanges i journal := by
  rw [rocketExchanges_append]
  by_cases here : i = index
  · simp [rocketExchanges, rocketExchange?, onRockets, here]
  · simp [rocketExchanges, rocketExchange?, here, Ne.symm here]

theorem rocketExchanges_concat {index : Nat} {journal : List (Nat × Moment L C R)}
    {w : World L C R} {c : Call} (elsewhere : c.isOnRockets = false) (i : Nat) :
    rocketExchanges i (journal ++ [(index, ⟨w, c⟩)]) = rocketExchanges i journal := by
  rw [rocketExchanges_append]
  simp [rocketExchanges, rocketExchange?, elsewhere]

end Pool

end MissionControl
