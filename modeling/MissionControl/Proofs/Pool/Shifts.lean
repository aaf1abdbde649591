import Mathlib.Logic.Function.Basic
import MissionControl.Proofs.Event.Locality
import MissionControl.Proofs.Lock.Tenure
import MissionControl.Proofs.Pool.Journal
import MissionControl.Proofs.Pool.Stages

/-!
# Shifts

Dispatches of events in a pool, each under the lock of its rocket.  A call of one of them shifts
its stage and no other.  The tokens that they draw are distinct, and whoever has calls of its
handler to make has the lease on its lock.
-/

namespace MissionControl

/-! ## Dispatches -/

/-- A dispatch of an event, and how its lock is asked for. -/
structure Dispatch where
  mutex : Mutex
  event : RocketEvent

namespace Dispatch

def lock (d : Dispatch) : String := d.mutex.lockFor d.event.lockKey

def handler (guard : Guard) (d : Dispatch) : Script (Except HandlerFault Unit) :=
  (EventHandler.ofType guard d.event.kind.type).handle d.event

def script (guard : Guard) (d : Dispatch) : Script (Except BusFault Unit) :=
  (EventBus.full guard).dispatchExclusively d.mutex d.event

theorem lock_congr {d e : Dispatch} (service : d.mutex.service = e.mutex.service)
    (same : d.event.rocketId = e.event.rocketId) : d.lock = e.lock := by
  unfold lock Mutex.lockFor RocketEvent.lockKey
  rw [service, same]

theorem stands_script (guard : Guard) (d : Dispatch) :
    Stands d.lock (d.handler guard) .fresh (d.script guard) :=
  stands_dispatch d.mutex (EventBus.handler?_full guard d.event.kind.type)

theorem about_handler (guard : Guard) (d : Dispatch) :
    (d.handler guard).About d.event.rocketId :=
  EventHandler.about_handle _ d.event

end Dispatch

/-! ## One call -/

variable {C : Type} [ClaimStore C] {guard : Guard} {dispatch : Nat → Dispatch}

/-- What the next call of a dispatch does to the stages of all. -/
inductive Shift (guard : Guard) (dispatch : Nat → Dispatch) (w : World Leases C Fleet)
    (index : Nat) (stage : Nat → Stage) : Call → (Nat → Stage) → Prop where
  | draws : stage index = .fresh →
      Shift guard dispatch w index stage .newToken
        (Function.update stage index (.waiting (.fresh w.tokens)))
  | rests {c : Call} : c.isIdle = true → Shift guard dispatch w index stage c stage
  | refused {token : Token} {expiry patience : Duration} : stage index = .waiting token →
      (w.serve (.acquire (dispatch index).lock token expiry patience)).reply ≠
        .returned (.ok true) →
      Shift guard dispatch w index stage
        (.acquire (dispatch index).lock token expiry patience) stage
  | granted {token : Token} {expiry patience : Duration} : stage index = .waiting token →
      (w.serve (.acquire (dispatch index).lock token expiry patience)).reply =
        .returned (.ok true) →
      Shift guard dispatch w index stage (.acquire (dispatch index).lock token expiry patience)
        (Function.update stage index (.holding token ((dispatch index).handler guard)))
  | works {token : Token} {c : Call} {rest : Outcome c.Reply → Script (Except HandlerFault Unit)} :
      stage index = .holding token (.call c rest) → c.isOnRockets = true →
      Shift guard dispatch w index stage c
        (Function.update stage index (.holding token (rest (w.serve c).reply)))
  | parts {token : Token} {patience : Duration} : (stage index).token? = some token →
      (stage index).isInside = false →
      Shift guard dispatch w index stage (.release (dispatch index).lock token patience) stage

/-- Each dispatch of a pool is at its stage. -/
structure Staged (guard : Guard) (dispatch : Nat → Dispatch)
    (pool : Pool Leases C Fleet (Except BusFault Unit)) (stage : Nat → Stage) : Prop where
  stands : ∀ i s, pool.script? i = some s →
    Stands (dispatch i).lock ((dispatch i).handler guard) (stage i) s
  begun : ∀ i, stage i ≠ .fresh → ∃ s, pool.script? i = some s
  about : ∀ i token inside, stage i = .holding token inside →
    inside.About (dispatch i).event.rocketId

namespace Staged

variable {pool : Pool Leases C Fleet (Except BusFault Unit)} {stage : Nat → Stage} {index : Nat}
  {c : Call} {next : Outcome c.Reply → Script (Except BusFault Unit)}

theorem update (h : Staged guard dispatch pool stage)
    (due : pool.script? index = some (.call c next)) {shifted : Stage}
    (stands : Stands (dispatch index).lock ((dispatch index).handler guard) shifted
      (next (pool.world.serve c).reply))
    (about : ∀ token inside, shifted = .holding token inside →
      inside.About (dispatch index).event.rocketId) :
    Staged guard dispatch (pool.step index) (Function.update stage index shifted) where
  stands i s script := by
    rw [Pool.script?_step due] at script
    split at script
    · rename_i same
      subst same
      rw [Function.update_self, ← Option.some.inj script]
      exact stands
    · rename_i apart
      rw [Function.update_of_ne apart]
      exact h.stands i s script
  begun i begun := by
    rw [Pool.script?_step due]
    split
    · exact ⟨_, rfl⟩
    · rename_i apart
      rw [Function.update_of_ne apart] at begun
      exact h.begun i begun
  about i token inside holding := by
    by_cases same : i = index
    · subst same
      rw [Function.update_self] at holding
      exact about token inside holding
    · rw [Function.update_of_ne same] at holding
      exact h.about i token inside holding

theorem stay (h : Staged guard dispatch pool stage)
    (due : pool.script? index = some (.call c next))
    (stands : Stands (dispatch index).lock ((dispatch index).handler guard) (stage index)
      (next (pool.world.serve c).reply)) :
    Staged guard dispatch (pool.step index) stage := by
  have updated := h.update due stands (h.about index)
  rwa [Function.update_eq_self] at updated

/-- The next call of a dispatch is a shift, and each dispatch is at its stage after it. -/
theorem exists_shift (h : Staged guard dispatch pool stage)
    (due : pool.script? index = some (.call c next)) :
    ∃ shifted, Shift guard dispatch pool.world index stage c shifted ∧
      Staged guard dispatch (pool.step index) shifted := by
  have about := h.about index
  have turn := (h.stands index _ due).turn
  generalize before : stage index = now at turn about
  cases turn with
  | draws stands =>
      refine ⟨_, .draws before, h.update due (stands _) ?_⟩
      intro token inside holding
      cases holding
  | rests idle stands =>
      refine ⟨stage, .rests idle, h.stay due ?_⟩
      rcases World.exists_reply_of_isIdle idle pool.world with ⟨value, reply⟩
      rw [reply, before]
      exact stands value
  | @asks token expiry patience _ lets waits =>
      by_cases granted :
          (pool.world.serve (.acquire (dispatch index).lock token expiry patience)).reply =
            .returned (.ok true)
      · refine ⟨_, .granted before granted, h.update due ?_ ?_⟩
        · rw [granted]
          exact lets
        · intro token inside holding
          cases holding
          exact (dispatch index).about_handler guard
      · refine ⟨stage, .refused before granted, h.stay due ?_⟩
        rw [before]
        exact waits _ granted
  | works stands =>
      have keeps := about _ _ rfl
      refine ⟨_, .works before keeps.isOnRockets, h.update due (stands _) ?_⟩
      intro token inside holding
      cases holding
      exact keeps.next_serve pool.world
  | parts token outside stands =>
      refine ⟨stage, .parts (before ▸ token) (before ▸ outside), h.stay due ?_⟩
      rw [before]
      exact stands _

end Staged

/-! ## Tokens and leases -/

/-- A dispatch has calls of its handler to make. -/
def Busy (stage : Nat → Stage) (i : Nat) (inside : Script (Except HandlerFault Unit)) : Prop :=
  inside.isOver = false ∧ ∃ token, stage i = .holding token inside

theorem busy_update {stage : Nat → Stage} {index i : Nat} (apart : i ≠ index) (shifted : Stage)
    (inside : Script (Except HandlerFault Unit)) :
    Busy (Function.update stage index shifted) i inside ↔ Busy stage i inside := by
  simp only [Busy, Function.update_of_ne apart]

def Apart (dispatch : Nat → Dispatch) (stage : Nat → Stage) : Prop :=
  ∀ i j one other, Busy stage i one → Busy stage j other →
    (dispatch i).event.rocketId = (dispatch j).event.rocketId → i = j

/--
The tokens that were drawn are distinct, and whoever has calls of its handler to make has the lease
on its lock.
-/
structure Tenancy (dispatch : Nat → Dispatch) (since : Nat) (w : World Leases C Fleet)
    (stage : Nat → Stage) : Prop where
  count : since ≤ w.tokens
  drawn : ∀ i token, (stage i).token? = some token →
    ∃ number, since ≤ number ∧ number < w.tokens ∧ token = .fresh number
  distinct : ∀ i j token, (stage i).token? = some token → (stage j).token? = some token → i = j
  leased : ∀ i token inside, stage i = .holding token inside → inside.isOver = false →
    ∃ expires, w.locks.granted.get? (dispatch i).lock = some ⟨token, expires⟩

variable {w : World Leases C Fleet} {index since : Nat} {stage shifted : Nat → Stage} {c : Call}

namespace Shift

theorem token? (h : Shift guard dispatch w index stage c shifted) :
    (c = .newToken ∧ shifted = Function.update stage index (.waiting (.fresh w.tokens))) ∨
      ∀ i, (shifted i).token? = (stage i).token? := by
  have same {new : Stage} (token : new.token? = (stage index).token?) (i : Nat) :
      (Function.update stage index new i).token? = (stage i).token? := by
    by_cases here : i = index
    · subst here
      rw [Function.update_self]
      exact token
    · rw [Function.update_of_ne here]
  cases h with
  | draws fresh =>
      exact .inl ⟨rfl, rfl⟩
  | rests idle =>
      exact .inr fun i => rfl
  | refused waiting no =>
      exact .inr fun i => rfl
  | granted waiting yes =>
      exact .inr (same (by rw [waiting]; rfl))
  | works holding onRockets =>
      exact .inr (same (by rw [holding]; rfl))
  | parts token outside =>
      exact .inr fun i => rfl

theorem effect (h : Shift guard dispatch w index stage c shifted) :
    (c.isOnRockets = false ∧ Pool.grant? (index, ⟨w, c⟩) = none ∧
        ∀ i token inside,
          shifted i = .holding token inside ↔ stage i = .holding token inside) ∨
      (c.isOnRockets = false ∧ Pool.grant? (index, ⟨w, c⟩) = some index ∧
        ∃ token, stage index = .waiting token ∧ shifted =
          Function.update stage index (.holding token ((dispatch index).handler guard))) ∨
      (c.isOnRockets = true ∧ Pool.grant? (index, ⟨w, c⟩) = none ∧
        ∃ token rest, stage index = .holding token (.call c rest) ∧ shifted =
          Function.update stage index (.holding token (rest (w.serve c).reply))) := by
  cases h with
  | draws fresh =>
      refine .inl ⟨rfl, rfl, fun i token inside => ?_⟩
      by_cases here : i = index
      · rw [here, Function.update_self, fresh]
        constructor <;> intro holding <;> cases holding
      · rw [Function.update_of_ne here]
  | rests idle =>
      have locks := Call.isOnLocks_of_isIdle idle
      refine .inl ⟨?_, Pool.grant?_of_isOnLocks locks, fun i token inside => Iff.rfl⟩
      exact Call.isOnRockets_of_isCoordination (Call.isCoordination_of_isIdle idle)
  | refused waiting no =>
      exact .inl ⟨rfl, Pool.grant?_of_refused no, fun i token inside => Iff.rfl⟩
  | granted waiting yes =>
      exact .inr (.inl ⟨rfl, Pool.grant?_of_granted yes, _, waiting, rfl⟩)
  | works holding onRockets =>
      have locks := Call.isOnLocks_of_isOnRockets onRockets
      exact .inr (.inr ⟨onRockets, Pool.grant?_of_isOnLocks locks, _, _, holding, rfl⟩)
  | parts token outside =>
      exact .inl ⟨rfl, rfl, fun i token inside => Iff.rfl⟩

end Shift

namespace Tenancy

theorem drawn_shift (h : Tenancy dispatch since w stage)
    (shift : Shift guard dispatch w index stage c shifted) (i : Nat) (token : Token)
    (bears : (shifted i).token? = some token) :
    ∃ number, since ≤ number ∧ number < (w.serve c).world.tokens ∧ token = .fresh number := by
  have le := World.tokens_le_serve c w
  rcases shift.token? with ⟨rfl, rfl⟩ | same
  · by_cases here : i = index
    · rw [here, Function.update_self] at bears
      cases bears
      exact ⟨w.tokens, h.count, Nat.lt_succ_self w.tokens, rfl⟩
    · rw [Function.update_of_ne here] at bears
      rcases h.drawn i token bears with ⟨number, first, last, rfl⟩
      exact ⟨number, first, Nat.lt_of_lt_of_le last le, rfl⟩
  · rw [same] at bears
    rcases h.drawn i token bears with ⟨number, first, last, rfl⟩
    exact ⟨number, first, Nat.lt_of_lt_of_le last le, rfl⟩

omit [ClaimStore C] in
theorem ne_fresh (h : Tenancy dispatch since w stage) {i : Nat} {token : Token}
    (bears : (stage i).token? = some token) : token ≠ .fresh w.tokens := by
  intro same
  rcases h.drawn i token bears with ⟨number, _, last, rfl⟩
  cases same
  exact Nat.lt_irrefl _ last

theorem distinct_shift (h : Tenancy dispatch since w stage)
    (shift : Shift guard dispatch w index stage c shifted) (i j : Nat) (token : Token)
    (first : (shifted i).token? = some token) (second : (shifted j).token? = some token) :
    i = j := by
  rcases shift.token? with ⟨rfl, rfl⟩ | same
  · by_cases hi : i = index
    · by_cases hj : j = index
      · exact hi.trans hj.symm
      · rw [hi, Function.update_self] at first
        rw [Function.update_of_ne hj] at second
        cases first
        exact absurd rfl (h.ne_fresh second)
    · by_cases hj : j = index
      · rw [hj, Function.update_self] at second
        rw [Function.update_of_ne hi] at first
        cases second
        exact absurd rfl (h.ne_fresh first)
      · rw [Function.update_of_ne hi] at first
        rw [Function.update_of_ne hj] at second
        exact h.distinct i j token first second
  · rw [same] at first second
    exact h.distinct i j token first second

omit [ClaimStore C] in
/-- The lease of a holder is live, so its lock is granted to no one else. -/
theorem lock_ne (h : Tenancy dispatch since w stage) {i : Nat} {token asking : Token}
    {inside : Script (Except HandlerFault Unit)} (holding : stage i = .holding token inside)
    (works : inside.isOver = false) (waiting : stage index = .waiting asking) {now : Instant}
    {expiry patience : Duration} (reads : w.clock.read = .returned now)
    (lasts : Moment.leaseLasts since
      ⟨w, .acquire (dispatch index).lock asking expiry patience⟩ = true)
    (free : ∀ lease, w.locks.granted.get? (dispatch index).lock = some lease →
      lease.isLive now = true → lease.token = asking) :
    (dispatch i).lock ≠ (dispatch index).lock := by
  intro same
  have bears : (stage i).token? = some token := by
    rw [holding]
    rfl
  rcases h.drawn i token bears with ⟨number, first, _, rfl⟩
  rcases h.leased i _ inside holding works with ⟨expires, found⟩
  rw [same] at found
  have live := Moment.isLive_of_leaseLasts lasts rfl reads found first
  have own : Token.fresh number = asking := free _ found (decide_eq_true live)
  have here : i = index := by
    apply h.distinct i index _ bears
    rw [waiting, own]
    rfl
  rw [here, waiting] at holding
  cases holding

theorem leased_shift (h : Tenancy dispatch since w stage)
    (shift : Shift guard dispatch w index stage c shifted)
    (lasts : Moment.leaseLasts since ⟨w, c⟩ = true) (i : Nat) (token : Token)
    (inside : Script (Except HandlerFault Unit)) (holding : shifted i = .holding token inside)
    (works : inside.isOver = false) :
    ∃ expires, (w.serve c).world.locks.granted.get? (dispatch i).lock =
      some ⟨token, expires⟩ := by
  cases shift with
  | draws fresh =>
      have apart : i ≠ index := by
        intro here
        rw [here, Function.update_self] at holding
        cases holding
      rw [Function.update_of_ne apart] at holding
      exact h.leased i token inside holding works
  | rests idle =>
      rw [World.locks_serve (Call.isOnLocks_of_isIdle idle)]
      exact h.leased i token inside holding works
  | @refused asking expiry patience waiting no =>
      rcases w.served_acquire (dispatch index).lock asking expiry patience with
        ⟨yes, _⟩ | ⟨_, same⟩
      · exact absurd yes no
      · rw [same]
        exact h.leased i token inside holding works
  | @granted asking expiry patience waiting yes =>
      rcases w.served_acquire (dispatch index).lock asking expiry patience with
        ⟨_, now, expires, reads, free, put⟩ | ⟨no, _⟩
      · rw [put, Register.get?_put]
        by_cases here : i = index
        · rw [here, Function.update_self] at holding
          cases holding
          exact ⟨expires, if_pos (congrArg _ (congrArg _ here))⟩
        · rw [Function.update_of_ne here] at holding
          rcases h.leased i token inside holding works with ⟨before, found⟩
          rw [if_neg (h.lock_ne holding works waiting reads lasts free)]
          exact ⟨before, found⟩
      · exact absurd yes no
  | @works busy c rest before onRockets =>
      rw [World.locks_serve (Call.isOnLocks_of_isOnRockets onRockets)]
      by_cases here : i = index
      · rw [here, Function.update_self] at holding
        cases holding
        rw [here]
        exact h.leased index token _ before rfl
      · rw [Function.update_of_ne here] at holding
        exact h.leased i token inside holding works
  | @parts leaving patience bears outside =>
      have apart : i ≠ index := by
        intro here
        rw [← here, holding] at outside
        simp [Stage.isInside, works] at outside
      rcases h.leased i token inside holding works with ⟨expires, found⟩
      refine ⟨expires, World.get?_released found ?_⟩
      intro same
      apply apart
      apply h.distinct i index token
      · rw [holding]
        rfl
      · rw [bears, ← same]

theorem shift (h : Tenancy dispatch since w stage)
    (shift : Shift guard dispatch w index stage c shifted)
    (lasts : Moment.leaseLasts since ⟨w, c⟩ = true) :
    Tenancy dispatch since (w.serve c).world shifted where
  count := Nat.le_trans h.count (World.tokens_le_serve c w)
  drawn := h.drawn_shift shift
  distinct := h.distinct_shift shift
  leased := h.leased_shift shift lasts

omit [ClaimStore C] in
theorem apart (h : Tenancy dispatch since w stage)
    (shared : ∀ i j, (dispatch i).mutex.service = (dispatch j).mutex.service) :
    Apart dispatch stage := by
  intro i j one other busy busyToo same
  rcases busy with ⟨works, first, holds⟩
  rcases busyToo with ⟨worksToo, second, holdsToo⟩
  rcases h.leased i first one holds works with ⟨_, found⟩
  rcases h.leased j second other holdsToo worksToo with ⟨_, foundToo⟩
  rw [Dispatch.lock_congr (shared i j) same, foundToo] at found
  cases found
  apply h.distinct i j first
  · rw [holds]
    rfl
  · rw [holdsToo]
    rfl

end Tenancy

end MissionControl
