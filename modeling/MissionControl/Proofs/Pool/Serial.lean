import MissionControl.Proofs.Pool.Shifts

/-!
# Dispatches in series

Dispatches in a pool, however their calls are mixed, do to the rockets what their handlers do one
after another, in the order in which the locks were granted.  Between a grant and the end of a
handler the records lag behind that of the series: they agree with it once every handler that is
under way has made the calls that are left.
-/

namespace MissionControl

/-! ## In turn -/

namespace World

variable {L C R β : Type} [LockStore L] [ClaimStore C] [RocketStore R]

/-- Plays scripts one after another: what each of them comes to, and the world in the end. -/
def inTurn (script : Nat → Script β) : List Nat → World L C R → List (Nat × Outcome β) × World L C R
  | [], w => ([], w)
  | index :: rest, w =>
      let others := inTurn script rest (play (script index) w).2
      ((index, (play (script index) w).1) :: others.1, others.2)

theorem inTurn_concat (script : Nat → Script β) (order : List Nat) (index : Nat)
    (w : World L C R) :
    inTurn script (order ++ [index]) w =
      ((inTurn script order w).1 ++ [(index, (play (script index) (inTurn script order w).2).1)],
        (play (script index) (inTurn script order w).2).2) := by
  induction order generalizing w with
  | nil =>
      rfl
  | cons first rest ih =>
      simp only [List.cons_append, inTurn, ih]

end World

theorem Script.play_of_isOver {β L C R : Type} [LockStore L] [ClaimStore C] [RocketStore R]
    {s : Script β} (h : s.isOver = true) (v w : World L C R) :
    (World.play s v).1 = (World.play s w).1 ∧ (World.play s v).2 = v := by
  cases s with
  | done value =>
      exact ⟨rfl, rfl⟩
  | panicked message =>
      exact ⟨rfl, rfl⟩
  | call c next =>
      cases h

namespace Script.About

variable {L C β : Type} [LockStore L] [ClaimStore C] {text : String} {s : Script β}

theorem play_congr_of_works (h : s.About text) {v w : World L C Fleet}
    (same : s.isOver = false → v.rockets.recordAt text = w.rockets.recordAt text) :
    (World.play s v).1 = (World.play s w).1 := by
  cases works : s.isOver with
  | true =>
      exact (Script.play_of_isOver works v w).1
  | false =>
      exact (h.play_congr (same works)).1

theorem play_elsewhere_of_works (h : s.About text) (w : World L C Fleet) {other : String}
    (apart : s.isOver = false → other ≠ text) :
    (World.play s w).2.rockets.recordAt other = w.rockets.recordAt other := by
  cases works : s.isOver with
  | true =>
      rw [(Script.play_of_isOver works w w).2]
  | false =>
      exact h.play_elsewhere w (apart works)

end Script.About

/-! ## What the journal records -/

variable {C : Type} [ClaimStore C] {guard : Guard} {dispatch : Nat → Dispatch}

/-- Who was granted a lock, and what each handler has heard so far, is in the journal. -/
structure Recorded (guard : Guard) (dispatch : Nat → Dispatch)
    (journal : List (Nat × Moment Leases C Fleet)) (stage : Nat → Stage) : Prop where
  granted : ∀ i, i ∈ Pool.grants journal ↔ ∃ token inside, stage i = .holding token inside
  single : (Pool.grants journal).Nodup
  heard : ∀ i token inside, stage i = .holding token inside → ∀ later result,
    inside.Runs later result →
      ((dispatch i).handler guard).Runs (Pool.rocketExchanges i journal ++ later) result
  unheard : ∀ i, i ∉ Pool.grants journal → Pool.rocketExchanges i journal = []

namespace Recorded

variable {journal : List (Nat × Moment Leases C Fleet)} {stage shifted : Nat → Stage}
  {w : World Leases C Fleet} {index : Nat} {c : Call} {token : Token}

theorem quiet (h : Recorded guard dispatch journal stage) (elsewhere : c.isOnRockets = false)
    (none : Pool.grant? (index, (⟨w, c⟩ : Moment Leases C Fleet)) = none)
    (same : ∀ i token inside,
      shifted i = .holding token inside ↔ stage i = .holding token inside) :
    Recorded guard dispatch (journal ++ [(index, ⟨w, c⟩)]) shifted := by
  have order : Pool.grants (journal ++ [(index, ⟨w, c⟩)]) = Pool.grants journal :=
    Pool.grants_concat_of_eq_none none
  constructor
  · intro i
    simp only [order, h.granted, same]
  · rw [order]
    exact h.single
  · intro i token inside holding
    rw [Pool.rocketExchanges_concat elsewhere]
    exact h.heard i token inside ((same i token inside).mp holding)
  · intro i absent
    rw [order] at absent
    rw [Pool.rocketExchanges_concat elsewhere]
    exact h.unheard i absent

theorem lets (h : Recorded guard dispatch journal stage) (elsewhere : c.isOnRockets = false)
    (grant : Pool.grant? (index, (⟨w, c⟩ : Moment Leases C Fleet)) = some index)
    (waiting : stage index = .waiting token) :
    Recorded guard dispatch (journal ++ [(index, ⟨w, c⟩)])
      (Function.update stage index (.holding token ((dispatch index).handler guard))) := by
  have order : Pool.grants (journal ++ [(index, ⟨w, c⟩)]) = Pool.grants journal ++ [index] :=
    Pool.grants_concat_of_eq_some grant
  have absent : index ∉ Pool.grants journal := by
    rw [h.granted, waiting]
    rintro ⟨token, inside, holding⟩
    cases holding
  constructor
  · intro i
    rw [order, List.mem_append, List.mem_singleton, h.granted]
    by_cases here : i = index
    · subst here
      simp [Function.update_self]
    · simp [here]
  · rw [order]
    exact h.single.append (List.nodup_singleton index) (by simpa using absent)
  · intro i held inside holding later result runs
    rw [Pool.rocketExchanges_concat elsewhere]
    by_cases here : i = index
    · subst here
      rw [Function.update_self] at holding
      cases holding
      rw [h.unheard i absent]
      exact runs
    · rw [Function.update_of_ne here] at holding
      exact h.heard i held inside holding later result runs
  · intro i missing
    rw [order, List.mem_append, not_or] at missing
    rw [Pool.rocketExchanges_concat elsewhere]
    exact h.unheard i missing.1

theorem works (h : Recorded guard dispatch journal stage) (onRockets : c.isOnRockets = true)
    (none : Pool.grant? (index, (⟨w, c⟩ : Moment Leases C Fleet)) = none)
    {rest : Outcome c.Reply → Script (Except HandlerFault Unit)}
    (holding : stage index = .holding token (.call c rest)) :
    Recorded guard dispatch (journal ++ [(index, ⟨w, c⟩)])
      (Function.update stage index (.holding token (rest (w.serve c).reply))) := by
  have order : Pool.grants (journal ++ [(index, ⟨w, c⟩)]) = Pool.grants journal :=
    Pool.grants_concat_of_eq_none none
  have present : index ∈ Pool.grants journal := (h.granted index).mpr ⟨_, _, holding⟩
  constructor
  · intro i
    rw [order]
    by_cases here : i = index
    · subst here
      simp [Function.update_self, present]
    · rw [Function.update_of_ne here]
      exact h.granted i
  · rw [order]
    exact h.single
  · intro i held inside holds later result runs
    rw [Pool.rocketExchanges_concat_of_isOnRockets onRockets]
    by_cases here : i = index
    · subst here
      rw [Function.update_self] at holds
      cases holds
      rw [if_pos rfl, List.append_assoc]
      exact h.heard i token _ holding _ result (.call runs)
    · rw [Function.update_of_ne here] at holds
      rw [if_neg here]
      exact h.heard i held inside holds later result runs
  · intro i absent
    rw [order] at absent
    have apart : i ≠ index := fun here => absent (here ▸ present)
    rw [Pool.rocketExchanges_concat_of_isOnRockets onRockets, if_neg apart]
    exact h.unheard i absent

end Recorded

/-! ## What becomes of the rockets -/

/-- What the handlers of some dispatches come to, one after another. -/
def series (guard : Guard) (dispatch : Nat → Dispatch) (order : List Nat)
    (start : World Leases C Fleet) :
    List (Nat × Outcome (Except HandlerFault Unit)) × World Leases C Fleet :=
  World.inTurn (fun index => (dispatch index).handler guard) order start

/--
The handlers that were let in come to what they come to in series, and so do the records, once
every handler that is under way has made the calls that are left.
-/
structure InStep (guard : Guard) (dispatch : Nat → Dispatch) (start : World Leases C Fleet)
    (order : List Nat) (w : World Leases C Fleet) (stage : Nat → Stage) : Prop where
  results : ∀ i result, (i, result) ∈ (series guard dispatch order start).1 →
    ∃ token inside, stage i = .holding token inside ∧ (World.play inside w).1 = result
  due : ∀ i inside, Busy stage i inside →
    (World.play inside w).2.rockets.recordAt (dispatch i).event.rocketId =
      (series guard dispatch order start).2.rockets.recordAt (dispatch i).event.rocketId
  settled : ∀ text, (∀ i inside, Busy stage i inside → (dispatch i).event.rocketId ≠ text) →
    w.rockets.recordAt text = (series guard dispatch order start).2.rockets.recordAt text

namespace InStep

variable {start w v : World Leases C Fleet} {order : List Nat} {stage shifted : Nat → Stage}
  {index : Nat} {token : Token}

theorem quiet (h : InStep guard dispatch start order w stage)
    (about : ∀ i token inside, stage i = .holding token inside →
      inside.About (dispatch i).event.rocketId)
    (rockets : v.rockets = w.rockets)
    (same : ∀ i token inside,
      shifted i = .holding token inside ↔ stage i = .holding token inside) :
    InStep guard dispatch start order v shifted := by
  have busy (i : Nat) (inside : Script (Except HandlerFault Unit)) :
      Busy shifted i inside ↔ Busy stage i inside := by
    simp only [Busy, same]
  have record (text : String) : v.rockets.recordAt text = w.rockets.recordAt text := by
    rw [rockets]
  constructor
  · intro i result mem
    rcases h.results i result mem with ⟨token, inside, holding, played⟩
    refine ⟨token, inside, (same i token inside).mpr holding, ?_⟩
    exact ((about i token inside holding).play_congr (record _)).1.trans played
  · intro i inside under
    rw [busy] at under
    rcases under.2 with ⟨token, holding⟩
    exact ((about i token inside holding).play_congr (record _)).2.trans (h.due i inside under)
  · intro text free
    rw [record]
    exact h.settled text fun i inside under => free i inside ((busy i inside).mpr under)

/-! ### Letting in -/

theorem ne_of_waiting {i : Nat} {inside : Script (Except HandlerFault Unit)}
    (waiting : stage index = .waiting token) (busy : Busy stage i inside) : i ≠ index := by
  rintro rfl
  rcases busy with ⟨_, held, holding⟩
  rw [waiting] at holding
  cases holding

theorem series_concat (order : List Nat) (index : Nat) :
    series guard dispatch (order ++ [index]) start =
      ((series guard dispatch order start).1 ++
        [(index, (World.play ((dispatch index).handler guard)
          (series guard dispatch order start).2).1)],
        (World.play ((dispatch index).handler guard)
          (series guard dispatch order start).2).2) :=
  World.inTurn_concat _ order index start

theorem record_of_works (h : InStep guard dispatch start order w stage)
    (waiting : stage index = .waiting token)
    (apart : Apart dispatch
      (Function.update stage index (.holding token ((dispatch index).handler guard))))
    (works : ((dispatch index).handler guard).isOver = false) :
    w.rockets.recordAt (dispatch index).event.rocketId =
      (series guard dispatch order start).2.rockets.recordAt (dispatch index).event.rocketId := by
  apply h.settled
  intro i inside busy same
  have other := ne_of_waiting waiting busy
  apply other
  apply apart i index inside ((dispatch index).handler guard) _ _ same
  · exact (busy_update other _ inside).mpr busy
  · exact ⟨works, token, Function.update_self ..⟩

theorem results_lets (h : InStep guard dispatch start order w stage)
    (about : ∀ i token inside, stage i = .holding token inside →
      inside.About (dispatch i).event.rocketId)
    (rockets : v.rockets = w.rockets) (waiting : stage index = .waiting token)
    (apart : Apart dispatch
      (Function.update stage index (.holding token ((dispatch index).handler guard))))
    (i : Nat) (result : Outcome (Except HandlerFault Unit))
    (mem : (i, result) ∈ (series guard dispatch (order ++ [index]) start).1) :
    ∃ held inside,
      Function.update stage index (.holding token ((dispatch index).handler guard)) i =
        .holding held inside ∧ (World.play inside v).1 = result := by
  rw [series_concat] at mem
  rcases List.mem_append.mp mem with earlier | last
  · rcases h.results i result earlier with ⟨held, inside, holding, played⟩
    have other : i ≠ index := by
      rintro rfl
      rw [waiting] at holding
      cases holding
    refine ⟨held, inside, ?_, ?_⟩
    · rw [Function.update_of_ne other]
      exact holding
    · rw [← played]
      apply (about i held inside holding).play_congr_of_works
      intro _
      rw [rockets]
  · cases List.mem_singleton.mp last
    refine ⟨token, _, Function.update_self .., ?_⟩
    apply ((dispatch index).about_handler guard).play_congr_of_works
    intro works
    rw [rockets]
    exact h.record_of_works waiting apart works

theorem due_lets (h : InStep guard dispatch start order w stage)
    (about : ∀ i token inside, stage i = .holding token inside →
      inside.About (dispatch i).event.rocketId)
    (rockets : v.rockets = w.rockets) (waiting : stage index = .waiting token)
    (apart : Apart dispatch
      (Function.update stage index (.holding token ((dispatch index).handler guard))))
    (i : Nat) (inside : Script (Except HandlerFault Unit))
    (busy : Busy
      (Function.update stage index (.holding token ((dispatch index).handler guard))) i inside) :
    (World.play inside v).2.rockets.recordAt (dispatch i).event.rocketId =
      (series guard dispatch (order ++ [index]) start).2.rockets.recordAt
        (dispatch i).event.rocketId := by
  have own := (dispatch index).about_handler guard
  rw [series_concat]
  by_cases here : i = index
  · subst here
    rcases busy with ⟨works, held, holding⟩
    rw [Function.update_self] at holding
    cases holding
    apply (own.play_congr _).2
    rw [rockets]
    exact h.record_of_works waiting apart works
  · have earlier := (busy_update here _ inside).mp busy
    rcases earlier.2 with ⟨held, holding⟩
    have record : v.rockets.recordAt (dispatch i).event.rocketId =
        w.rockets.recordAt (dispatch i).event.rocketId := by
      rw [rockets]
    rw [((about i held inside holding).play_congr record).2, h.due i inside earlier]
    symm
    apply own.play_elsewhere_of_works
    intro works same
    exact here (apart i index inside _ busy ⟨works, token, Function.update_self ..⟩ same)

/-- A dispatch is let in: its handler is the next one in the series. -/
theorem lets (h : InStep guard dispatch start order w stage)
    (about : ∀ i token inside, stage i = .holding token inside →
      inside.About (dispatch i).event.rocketId)
    (rockets : v.rockets = w.rockets) (waiting : stage index = .waiting token)
    (apart : Apart dispatch
      (Function.update stage index (.holding token ((dispatch index).handler guard)))) :
    InStep guard dispatch start (order ++ [index]) v
      (Function.update stage index (.holding token ((dispatch index).handler guard))) := by
  constructor
  · exact h.results_lets about rockets waiting apart
  · exact h.due_lets about rockets waiting apart
  · intro text free
    rw [series_concat, rockets, h.settled text]
    · symm
      apply ((dispatch index).about_handler guard).play_elsewhere_of_works
      intro works same
      exact free index _ ⟨works, token, Function.update_self ..⟩ same.symm
    · intro i inside busy
      exact free i inside ((busy_update (ne_of_waiting waiting busy) _ _).mpr busy)

/-! ### Calls of handlers -/

theorem recordAt_works {c : Call} {rest : Outcome c.Reply → Script (Except HandlerFault Unit)}
    (about : ∀ i token inside, stage i = .holding token inside →
      inside.About (dispatch i).event.rocketId)
    (holding : stage index = .holding token (.call c rest)) (apart : Apart dispatch stage)
    (w : World Leases C Fleet) {i : Nat} {inside : Script (Except HandlerFault Unit)}
    (other : i ≠ index) (busy : Busy stage i inside) :
    (w.serve c).world.rockets.recordAt (dispatch i).event.rocketId =
      w.rockets.recordAt (dispatch i).event.rocketId := by
  apply (about index token _ holding).serve_elsewhere
  intro same
  exact other (apart i index inside _ busy ⟨rfl, token, holding⟩ same)

/-- A handler that is under way makes a call. -/
theorem works {c : Call} {rest : Outcome c.Reply → Script (Except HandlerFault Unit)}
    (h : InStep guard dispatch start order w stage)
    (about : ∀ i token inside, stage i = .holding token inside →
      inside.About (dispatch i).event.rocketId)
    (holding : stage index = .holding token (.call c rest)) (apart : Apart dispatch stage) :
    InStep guard dispatch start order (w.serve c).world
      (Function.update stage index (.holding token (rest (w.serve c).reply))) := by
  have own := about index token _ holding
  have busyOwn : Busy stage index (.call c rest) := ⟨rfl, token, holding⟩
  -- The handler comes to what it came to before the call.
  have played := own.play_next w
  constructor
  · intro i result mem
    rcases h.results i result mem with ⟨held, inside, holds, before⟩
    by_cases here : i = index
    · subst here
      rw [holding] at holds
      cases holds
      exact ⟨token, _, Function.update_self .., played.1.trans before⟩
    · refine ⟨held, inside, ?_, ?_⟩
      · rw [Function.update_of_ne here]
        exact holds
      · rw [← before]
        apply (about i held inside holds).play_congr_of_works
        intro works
        exact recordAt_works about holding apart w here ⟨works, held, holds⟩
  · intro i inside busy
    by_cases here : i = index
    · subst here
      rcases busy with ⟨_, held, holds⟩
      rw [Function.update_self] at holds
      cases holds
      exact played.2.trans (h.due i _ busyOwn)
    · rw [busy_update here] at busy
      rcases busy.2 with ⟨held, holds⟩
      have same := recordAt_works about holding apart w here busy
      exact ((about i held inside holds).play_congr same).2.trans (h.due i inside busy)
  · intro text free
    by_cases here : text = (dispatch index).event.rocketId
    · subst here
      cases finished : (rest (w.serve c).reply).isOver with
      | true =>
          rw [← h.due index _ busyOwn, ← played.2, (Script.play_of_isOver finished _ w).2]
      | false =>
          exact absurd rfl (free index _ ⟨finished, token, Function.update_self ..⟩)
    · rw [own.serve_elsewhere w here]
      apply h.settled
      intro i inside busy same
      by_cases own : i = index
      · rw [own] at same
        exact here same.symm
      · exact free i inside ((busy_update own _ inside).mpr busy) same

end InStep

/-! ## Any schedule -/

def dispatchPool (guard : Guard) (dispatch : Nat → Dispatch) (count : Nat)
    (start : World Leases C Fleet) : Pool Leases C Fleet (Except BusFault Unit) :=
  Pool.start start ((List.range count).map fun index => (dispatch index).script guard)

/-- Dispatches in a pool, after the calls of a journal, are in step with the series of handlers. -/
structure Serial (guard : Guard) (dispatch : Nat → Dispatch) (start : World Leases C Fleet)
    (pool : Pool Leases C Fleet (Except BusFault Unit))
    (journal : List (Nat × Moment Leases C Fleet)) (stage : Nat → Stage) : Prop where
  staged : Staged guard dispatch pool stage
  tenancy : Tenancy dispatch start.tokens pool.world stage
  recorded : Recorded guard dispatch journal stage
  inStep : InStep guard dispatch start (Pool.grants journal) pool.world stage

namespace Serial

variable {start : World Leases C Fleet} {pool : Pool Leases C Fleet (Except BusFault Unit)}
  {journal : List (Nat × Moment Leases C Fleet)} {stage : Nat → Stage} {index : Nat} {c : Call}
  {next : Outcome c.Reply → Script (Except BusFault Unit)}

theorem step (h : Serial guard dispatch start pool journal stage)
    (shared : ∀ i j, (dispatch i).mutex.service = (dispatch j).mutex.service)
    (due : pool.script? index = some (.call c next))
    (lasts : Moment.leaseLasts start.tokens ⟨pool.world, c⟩ = true) :
    ∃ shifted, Serial guard dispatch start (pool.step index)
      (journal ++ [(index, ⟨pool.world, c⟩)]) shifted := by
  rcases h.staged.exists_shift due with ⟨shifted, shift, staged⟩
  have tenancy := h.tenancy.shift shift lasts
  have world := Pool.world_step due
  have apart := tenancy.apart shared
  refine ⟨shifted, staged, world ▸ tenancy, ?_, ?_⟩
  · rcases shift.effect with ⟨elsewhere, none, same⟩ | ⟨elsewhere, grant, token, waiting, rfl⟩ |
      ⟨onRockets, none, token, rest, holding, rfl⟩
    · exact h.recorded.quiet elsewhere none same
    · exact h.recorded.lets elsewhere grant waiting
    · exact h.recorded.works onRockets none holding
  · rw [world]
    rcases shift.effect with ⟨elsewhere, none, same⟩ | ⟨elsewhere, grant, token, waiting, rfl⟩ |
      ⟨onRockets, none, token, rest, holding, rfl⟩
    · rw [Pool.grants_concat_of_eq_none none]
      exact h.inStep.quiet h.staged.about (World.rockets_serve elsewhere pool.world) same
    · rw [Pool.grants_concat_of_eq_some grant]
      exact h.inStep.lets h.staged.about (World.rockets_serve elsewhere pool.world) waiting apart
    · rw [Pool.grants_concat_of_eq_none none]
      exact h.inStep.works h.staged.about holding (h.tenancy.apart shared)

/-- What one call keeps, every schedule keeps. -/
theorem play (h : Serial guard dispatch start pool journal stage)
    (shared : ∀ i j, (dispatch i).mutex.service = (dispatch j).mutex.service)
    (schedule : List Nat)
    (last : ∀ entry ∈ pool.journal schedule, entry.2.leaseLasts start.tokens = true) :
    ∃ shifted, Serial guard dispatch start (pool.playSchedule schedule)
      (journal ++ pool.journal schedule) shifted := by
  induction schedule generalizing pool journal stage with
  | nil =>
      rw [Pool.journal, List.append_nil]
      exact ⟨stage, h⟩
  | cons index rest ih =>
      rw [Pool.journal] at last ⊢
      show ∃ shifted, Serial guard dispatch start ((pool.step index).playSchedule rest) _ shifted
      cases due : pool.moment? index with
      | none =>
          have same := Pool.step_of_moment?_eq_none due
          rw [due] at last
          rw [same] at last ⊢
          exact ih h (by simpa using last)
      | some m =>
          rcases Pool.exists_of_moment? due with ⟨next, script, world⟩
          rw [due] at last
          have here : m = ⟨pool.world, m.call⟩ := by rw [← world]
          have lasts := last (index, m) (by simp)
          rw [here] at lasts
          rcases h.step shared script lasts with ⟨shifted, stepped⟩
          rw [← here] at stepped
          have later := ih stepped fun entry mem => last entry (by simp [mem])
          simpa using later

theorem first (count : Nat) :
    Serial guard dispatch start (dispatchPool guard dispatch count start) []
      fun _ => .fresh := by
  refine ⟨⟨?_, ?_, ?_⟩, ⟨Nat.le_refl _, ?_, ?_, ?_⟩, ⟨?_, List.nodup_nil, ?_, ?_⟩, ⟨?_, ?_, ?_⟩⟩
  · intro i s script
    rw [dispatchPool, Pool.script?_start, List.getElem?_map] at script
    rcases Option.map_eq_some_iff.mp script with ⟨index, place, rfl⟩
    rcases List.getElem?_eq_some_iff.mp place with ⟨_, here⟩
    rw [List.getElem_range] at here
    rw [← here]
    exact (dispatch i).stands_script guard
  · intro i begun
    exact absurd rfl begun
  · intro i token inside holding
    cases holding
  · intro i token bears
    cases bears
  · intro i j token bears
    cases bears
  · intro i token inside holding
    cases holding
  · intro i
    constructor
    · intro mem
      cases mem
    · rintro ⟨token, inside, holding⟩
      cases holding
  · intro i token inside holding
    cases holding
  · intro i absent
    rfl
  · intro i result mem
    cases mem
  · rintro i inside ⟨_, token, holding⟩
    cases holding
  · intro text free
    rfl

end Serial

/-! ## The end of all dispatches -/

theorem Script.runs_of_isOver {β L R : Type} [LockStore L] [RocketStore R] {s : Script β}
    (finished : s.isOver = true) (w : World L C R) : s.Runs [] (World.play s w).1 := by
  cases s with
  | done value =>
      exact .done value
  | panicked message =>
      exact .panicked message
  | call c next =>
      cases finished

/--
Dispatches whose locks were granted in some order have done what their handlers do one after
another in that order, and the others have done nothing.
-/
structure InSeries (guard : Guard) (dispatch : Nat → Dispatch) (start : World Leases C Fleet)
    (journal : List (Nat × Moment Leases C Fleet)) (final : World Leases C Fleet) : Prop where
  once : (Pool.grants journal).Nodup
  rockets : final.rockets =
    (series guard dispatch (Pool.grants journal) start).2.rockets
  /-- Every handler comes to the same, from what it has heard of the rockets. -/
  results : ∀ i result, (i, result) ∈ (series guard dispatch (Pool.grants journal) start).1 →
    ((dispatch i).handler guard).Runs (Pool.rocketExchanges i journal) result
  others : ∀ i, i ∉ Pool.grants journal → Pool.rocketExchanges i journal = []

/--
However the calls of dispatches are mixed, if no lease expires before it is given back, the rockets
and the results of the handlers are those of the series in which the locks were granted.
-/
theorem dispatches_in_series (guard : Guard) (dispatch : Nat → Dispatch)
    (shared : ∀ i j, (dispatch i).mutex.service = (dispatch j).mutex.service) (count : Nat)
    (start : World Leases C Fleet) (schedule : List Nat)
    (last : ∀ entry ∈ (dispatchPool guard dispatch count start).journal schedule,
      entry.2.leaseLasts start.tokens = true)
    (ended : ∀ task ∈ ((dispatchPool guard dispatch count start).playSchedule schedule).tasks,
      task.outcome?.isSome = true) :
    InSeries guard dispatch start ((dispatchPool guard dispatch count start).journal schedule)
      ((dispatchPool guard dispatch count start).playSchedule schedule).world := by
  rcases (Serial.first count).play shared schedule last with ⟨stage, h⟩
  rw [List.nil_append] at h
  have finished (i : Nat) (token : Token) (inside : Script (Except HandlerFault Unit))
      (holding : stage i = .holding token inside) : inside.isOver = true := by
    have begun : stage i ≠ .fresh := by
      rw [holding]
      intro fresh
      cases fresh
    rcases h.staged.begun i begun with ⟨s, script⟩
    have stands := h.staged.stands i s script
    rw [holding] at stands
    cases stands with
    | holding holds =>
        exact holds.isOver (isOver_of_ended ended script)
  refine ⟨h.recorded.single, Fleet.ext_recordAt fun text => h.inStep.settled text ?_, ?_,
    h.recorded.unheard⟩
  · rintro i inside ⟨works, token, holding⟩
    rw [finished i token inside holding] at works
    cases works
  · intro i result mem
    rcases h.inStep.results i result mem with ⟨token, inside, holding, played⟩
    have runs := Script.runs_of_isOver (finished i token inside holding)
      ((dispatchPool guard dispatch count start).playSchedule schedule).world
    rw [played] at runs
    have heard := h.recorded.heard i token inside holding [] result runs
    rwa [List.append_nil] at heard

def accelerations (_ : Nat) : Dispatch := ⟨{}, World.acceleration⟩

def unlocked : World Leases ClaimRecords Fleet :=
  { locks := {}, claims := .start .epoch, rockets := World.oneRocket, clock := .standing .epoch }

theorem accelerations_in_series :
    Pool.grants ((dispatchPool .notAfter accelerations 2 unlocked).journal
        (.flatten (.replicate 20 [0, 1]))) = [0, 1] ∧
      InSeries .notAfter accelerations unlocked
        ((dispatchPool .notAfter accelerations 2 unlocked).journal
          (.flatten (.replicate 20 [0, 1])))
        ((dispatchPool .notAfter accelerations 2 unlocked).playSchedule
          (.flatten (.replicate 20 [0, 1]))).world := by
  refine ⟨by decide +kernel, ?_⟩
  apply dispatches_in_series
  · intro i j
    rfl
  · decide +kernel
  · decide +kernel

end MissionControl
