import MissionControl.World

/-!
# Pools of tasks

Several scripts are played in one world, a call at a time.  In a pool any task may make the next
call, so every interleaving is the play of some schedule.  The fair schedule lets each task go on
until it waits, and moves the timer only when all of them wait.
-/

namespace MissionControl

/-- A script that is being played, and the time on the timer at which it may go on. -/
structure Task (α : Type) where
  script : Script α
  wakes : Nat := 0

namespace Task

variable {α : Type}

def outcome? (task : Task α) : Option (Outcome α) :=
  match task.script with
  | .done value => some (.returned value)
  | .panicked message => some (.panicked message)
  | .call _ _ => none

def isReady (time : Nat) (task : Task α) : Bool :=
  task.outcome?.isNone && decide (task.wakes ≤ time)

end Task

structure Pool (L C R α : Type) where
  world : World L C R
  tasks : List (Task α)

namespace Pool

variable {L C R α : Type}

def start (world : World L C R) (scripts : List (Script α)) : Pool L C R α :=
  { world := world, tasks := scripts.map fun script => { script := script } }

def outcomes (pool : Pool L C R α) : List (Outcome α) :=
  pool.tasks.filterMap Task.outcome?

variable [LockStore L] [ClaimStore C] [RocketStore R]

/-! ## Any schedule -/

def stepTask (w : World L C R) (task : Task α) : World L C R × Task α :=
  match task.script with
  | .call c next =>
      let served := w.serve c
      (served.world, { script := next served.reply, wakes := w.timer + served.wait })
  | _ => (w, task)

/-- The pool after the next call of one task; a task that has ended makes none. -/
def step (pool : Pool L C R α) (index : Nat) : Pool L C R α :=
  match pool.tasks[index]? with
  | some task =>
      let stepped := stepTask pool.world task
      { world := stepped.1, tasks := pool.tasks.set index stepped.2 }
  | none => pool

def playSchedule (pool : Pool L C R α) (schedule : List Nat) : Pool L C R α :=
  schedule.foldl step pool

/-! ## The fair schedule -/

/-- Plays a script until it pauses, must wait, or ends. -/
def burst (w : World L C R) : Script α → World L C R × Task α
  | .call c next =>
      let served := w.serve c
      let pauses := match c with
        | .pause _ => true
        | _ => decide (0 < served.wait)
      if pauses then
        (served.world, { script := next served.reply, wakes := w.timer + served.wait })
      else
        burst served.world (next served.reply)
  | script => (w, { script := script, wakes := w.timer })

def round (w : World L C R) : List (Task α) → World L C R × List (Task α)
  | [] => (w, [])
  | task :: rest =>
      let turn := if task.isReady w.timer then burst w task.script else (w, task)
      let others := round turn.1 rest
      (others.1, turn.2 :: others.2)

def nextWake (pool : Pool L C R α) : Option Nat :=
  ((pool.tasks.filter fun task => task.outcome?.isNone).map (·.wakes)).min?

/-- The pool after a round, or with the timer moved on if no task is ready. -/
def turn (pool : Pool L C R α) : Pool L C R α :=
  match pool.nextWake with
  | none => pool
  | some wake =>
      let world := { pool.world with timer := max pool.world.timer wake }
      let played := round world pool.tasks
      { world := played.1, tasks := played.2 }

def playFair (pool : Pool L C R α) : (turns : Nat) → Pool L C R α
  | 0 => pool
  | turns + 1 => if pool.nextWake.isNone then pool else playFair pool.turn turns

end Pool

end MissionControl
