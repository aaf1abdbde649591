import MissionControl.Clock
import MissionControl.Script

/-!
# Worlds

What answers the calls of a script: the stores, the clock that they read, and the machine's timer,
tokens and random numbers.  A world is a value; playing a script in it gives the outcome and the
world afterwards.  The timer is kept in milliseconds and knows nothing of the stores' clock.  The
clock that is moved by hand is the stores' own unless the world keeps another one.
-/

namespace MissionControl

/-- The stores and the machine. -/
structure World (L C R : Type) where
  locks : L
  claims : C
  rockets : R
  /-- The stores' clock: one reading is taken for every call on a store that tells time. -/
  clock : Clock
  /-- The clock that is moved by hand, where it is not the one that the stores read. -/
  apart : Option Clock := none
  /-- Milliseconds on the machine's timer. -/
  timer : Nat := 0
  /-- How many tokens were handed out. -/
  tokens : Nat := 0
  /-- The random numbers to come. -/
  draws : Supply Deviation := .always default

structure Served (L C R : Type) (c : Call) where
  reply : Outcome c.Reply
  /-- The milliseconds until the reply is there. -/
  wait : Nat := 0
  world : World L C R

namespace World

variable {L C R : Type}

def tick (w : World L C R) : World L C R := { w with clock := w.clock.tick }

def handClock (w : World L C R) : Clock := w.apart.getD w.clock

/-- The milliseconds of a wait, a part of one counting as a whole. -/
def pauseLength (nanoseconds : Rat) : Nat := (nanoseconds / 1000000).ceil.toNat

def moveClock (milliseconds : Int) (w : World L C R) : Outcome Unit × World L C R :=
  let moved := w.handClock.move milliseconds
  (moved.1,
    if w.apart.isSome then { w with apart := some moved.2 } else { w with clock := moved.2 })

variable [LockStore L] [ClaimStore C] [RocketStore R]

def serve (w : World L C R) : (c : Call) → Served L C R c
  | .findRocket id => { reply := .returned (RocketStore.find id w.rockets), world := w }
  | .isKnown id => { reply := .returned (RocketStore.isKnown id w.rockets), world := w }
  | .listRockets key => { reply := .returned (RocketStore.listing key w.rockets), world := w }
  | .saveRocket r =>
      let saved := RocketStore.save r w.rockets
      { reply := saved.1, world := { w with rockets := saved.2 } }
  | .acquire name token expiry patience =>
      let answered := LockStore.acquire name token expiry w.clock.read w.locks
      { reply := answered.1.heard patience
        wait := answered.1.wait patience
        world := { w.tick with locks := answered.2 } }
  | .release name token patience =>
      let answered := LockStore.release name token w.clock.read w.locks
      { reply := answered.1.heard patience
        wait := answered.1.wait patience
        world := { w.tick with locks := answered.2 } }
  | .claim eventId retention =>
      let answered := ClaimStore.claim eventId retention w.clock.read w.claims
      { reply := answered.1, world := { w.tick with claims := answered.2 } }
  | .forget eventId =>
      let answered := ClaimStore.forget eventId w.claims
      { reply := .returned answered.1, world := { w with claims := answered.2 } }
  | .newToken =>
      { reply := .returned (.fresh w.tokens), world := { w with tokens := w.tokens + 1 } }
  | .draw =>
      { reply := .returned w.draws.first, world := { w with draws := w.draws.after } }
  | .pause nanoseconds =>
      { reply := .returned (), wait := pauseLength nanoseconds, world := w }
  | .moveClock milliseconds =>
      let moved := w.moveClock milliseconds
      { reply := moved.1, world := moved.2 }

def waited (milliseconds : Nat) (w : World L C R) : World L C R :=
  { w with timer := w.timer + milliseconds }

def play {α : Type} : Script α → World L C R → Outcome α × World L C R
  | .done value, w => (.returned value, w)
  | .panicked message, w => (.panicked message, w)
  | .call c next, w =>
      let served := w.serve c
      play (next served.reply) (served.world.waited served.wait)

def exchanges {α : Type} : Script α → World L C R → List Script.Exchange
  | .done _, _ => []
  | .panicked _, _ => []
  | .call c next, w =>
      let served := w.serve c
      ⟨c, served.reply⟩ :: exchanges (next served.reply) (served.world.waited served.wait)

def calls {α : Type} (s : Script α) (w : World L C R) : List Call :=
  (exchanges s w).map fun exchange => exchange.call

/-! ## Laws -/

variable {α β : Type}

theorem play_done (value : α) (w : World L C R) :
    play (.done value) w = (.returned value, w) := rfl

theorem play_call (c : Call) (next : Outcome c.Reply → Script α) (w : World L C R) :
    play (.call c next) w =
      play (next (w.serve c).reply) ((w.serve c).world.waited (w.serve c).wait) := rfl

theorem play_bind (s : Script α) (f : α → Script β) (w : World L C R) :
    play (s.bind f) w =
      match play s w with
      | (.returned value, w) => play (f value) w
      | (.panicked message, w) => (.panicked message, w) := by
  induction s generalizing w with
  | done value =>
      rfl
  | panicked message =>
      rfl
  | call c next ih =>
      exact ih _ _

theorem play_outcome (s : Script α) (w : World L C R) :
    play s.outcome w = (.returned (play s w).1, (play s w).2) := by
  induction s generalizing w with
  | done value =>
      rfl
  | panicked message =>
      rfl
  | call c next ih =>
      exact ih _ _

theorem pauseLength_zero : pauseLength 0 = 0 := by
  decide +kernel

theorem play_rest (w : World L C R) : play Script.rest w = (.returned (), w) := by
  simp [Script.rest, Script.perform, Script.ofOutcome, play, serve, pauseLength_zero, waited]

theorem play_task (s : Script α) (w : World L C R) :
    play s.task w = (.returned (play s w).1, (play s w).2) := by
  have h : s.task = Script.rest.bind fun _ => s.outcome.bind fun result =>
      Script.rest.bind fun _ => .done result := rfl
  simp only [h, play_bind, play_rest, play_outcome, play_done]

end World

end MissionControl
