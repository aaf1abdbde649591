import MissionControl.Proofs.Delivery.Outcome
import MissionControl.Proofs.Event.Resolution
import MissionControl.Proofs.Pool.Stages
import MissionControl.Proofs.Rocket.Listing
import MissionControl.Proofs.Rocket.Replay

/-!
# Registrations

What a bus makes of an input is settled by the handlers that were registered, and of those by the
first for each type.  An event without a handler, or with a handler for events of other types, ends
in a fault of the wiring and changes nothing; every other event ends as its handler does.  The buses
of the service know every type of their inputs, so their wiring is never at fault.
-/

namespace MissionControl

theorem Register.mem_names_iff {α : Type} {register : Register α} {name : String} :
    name ∈ register.names ↔ (register.get? name).isSome = true := by
  unfold names get?
  induction register.entries with
  | nil =>
      simp
  | cons entry rest ih =>
      rw [List.map_cons, List.mem_cons, ih, Register.lookup_cons]
      by_cases same : name = entry.1 <;> simp [same]

/-! ## Buses -/

namespace Bus

variable {ι ο : Type} {bus : Bus ι ο} {type : String} {handler : Handler ι ο}

theorem register_of_taken (taken : (bus.handler? type).isSome = true) :
    bus.register type handler = .error (.handlerTaken type) :=
  if_pos taken

theorem register_of_free (free : (bus.handler? type).isSome = false) :
    bus.register type handler = .ok ⟨bus.handlers.put type handler⟩ :=
  if_neg (Bool.eq_false_iff.mp free)

def registered (bus : Bus ι ο) (entry : String × Handler ι ο) : Bus ι ο :=
  match bus.register entry.1 entry.2 with
  | .ok bus => bus
  | .error _ => bus

theorem handler?_registered (bus : Bus ι ο) (entry : String × Handler ι ο) (type : String) :
    (bus.registered entry).handler? type =
      (bus.handler? type).or (if type = entry.1 then some entry.2 else none) := by
  unfold registered
  cases taken : (bus.handler? entry.1).isSome with
  | true =>
      rw [register_of_taken taken]
      rcases Option.isSome_iff_exists.mp taken with ⟨handler, found⟩
      by_cases same : type = entry.1
      · rw [same, found]
        rfl
      · rw [if_neg same, Option.or_none]
  | false =>
      rw [register_of_free taken]
      show (bus.handlers.put entry.1 entry.2).get? type = _
      rw [Register.get?_put]
      by_cases same : type = entry.1
      · have free : bus.handler? type = none := by
          rw [same]
          exact Option.not_isSome_iff_eq_none.mp (Bool.eq_false_iff.mp taken)
        rw [if_pos same, if_pos same, free]
        rfl
      · rw [if_neg same, if_neg same, Option.or_none]
        rfl

theorem handler?_foldl_registered (entries : List (String × Handler ι ο)) (bus : Bus ι ο)
    (type : String) :
    (entries.foldl registered bus).handler? type =
      (bus.handler? type).or (entries.lookup type) := by
  induction entries generalizing bus with
  | nil =>
      exact Option.or_none.symm
  | cons entry rest ih =>
      rw [List.foldl_cons, ih, handler?_registered, Register.lookup_cons, Option.or_assoc]
      by_cases same : type = entry.1 <;> simp [same]

theorem handler?_ofList (entries : List (String × Handler ι ο)) (type : String) :
    (ofList entries).handler? type = entries.lookup type :=
  (handler?_foldl_registered entries {} type).trans (Option.none_or)

theorem ofList_concat (entries : List (String × Handler ι ο)) (entry : String × Handler ι ο) :
    ofList (entries ++ [entry]) = (ofList entries).registered entry :=
  List.foldl_append

theorem mem_types_iff : type ∈ bus.types ↔ (bus.handler? type).isSome = true := by
  unfold types handler?
  rw [List.mem_mergeSort, Register.mem_names_iff]

theorem pairwise_types (bus : Bus ι ο) : bus.types.Pairwise (· < ·) := by
  have sorted : bus.types.Pairwise fun a b => decide (a ≤ b) = true := by
    apply List.pairwise_mergeSort
    · intro a b c first second
      exact decide_eq_true (String.le_trans (of_decide_eq_true first) (of_decide_eq_true second))
    · intro a b
      rcases String.le_total a b with below | above
      · simp [below]
      · simp [above]
  -- a register has one entry for a name, so no type is listed twice
  have apart : bus.types.Pairwise (· ≠ ·) :=
    (List.mergeSort_perm _ _).nodup_iff.mpr bus.handlers.single
  refine (sorted.and apart).imp ?_
  rintro a b ⟨below, distinct⟩
  apply String.not_le.mp
  intro above
  exact distinct (String.le_antisymm (of_decide_eq_true below) above)

end Bus

namespace EventType

theorem name_injective {a b : EventType} (same : a.name = b.name) : a = b := by
  apply Option.some_inj.mp
  rw [← ofName?_name a, ← ofName?_name b, same]

end EventType

/-! ## Registering event handlers -/

namespace EventBus

def ofRegistrations (entries : List (EventType × EventHandler)) : EventBus :=
  ofHandlers (entries.map fun entry => (entry.1.name, entry.2))

variable {entries : List (EventType × EventHandler)} {type : EventType} {handler : EventHandler}

theorem handler?_ofRegistrations (entries : List (EventType × EventHandler)) (type : EventType) :
    (ofRegistrations entries).handler? type.name =
      (entries.lookup type).map EventHandler.handle := by
  unfold ofRegistrations ofHandlers
  rw [Bus.handler?_ofList]
  induction entries with
  | nil =>
      rfl
  | cons entry rest ih =>
      rw [List.map_cons, List.map_cons, Register.lookup_cons, ih, List.lookup_cons]
      by_cases same : type = entry.1
      · simp [same]
      · have apart : type.name ≠ entry.1.name := fun named => same (EventType.name_injective named)
        simp [beq_eq_false_iff_ne.mpr same, apart]

theorem ofRegistrations_concat (entries : List (EventType × EventHandler)) (type : EventType)
    (handler : EventHandler) :
    ofRegistrations (entries ++ [(type, handler)]) =
      (ofRegistrations entries).registered (type.name, handler.handle) := by
  unfold ofRegistrations ofHandlers
  rw [List.map_append, List.map_append]
  exact Bus.ofList_concat _ _

theorem mem_types_ofRegistrations {name : String} :
    name ∈ (ofRegistrations entries).types ↔ ∃ entry ∈ entries, entry.1.name = name := by
  rw [Bus.mem_types_iff]
  unfold ofRegistrations ofHandlers
  rw [Bus.handler?_ofList, List.map_map, List.lookup_isSome_iff]
  constructor
  · rintro ⟨pair, listed, same⟩
    rcases List.mem_map.mp listed with ⟨entry, mem, rfl⟩
    exact ⟨entry, mem, (beq_iff_eq.mp same).symm⟩
  · rintro ⟨entry, mem, rfl⟩
    exact ⟨_, List.mem_map_of_mem mem, beq_self_eq_true _⟩

theorem isSome_handler?_ofRegistrations :
    ((ofRegistrations entries).handler? type.name).isSome = true ↔
      type ∈ entries.map (·.1) := by
  rw [← Bus.mem_types_iff, mem_types_ofRegistrations, List.mem_map]
  constructor
  · rintro ⟨entry, mem, same⟩
    exact ⟨entry, mem, EventType.name_injective same⟩
  · rintro ⟨entry, mem, rfl⟩
    exact ⟨entry, mem, rfl⟩

/-- What registering a handler makes of a bus for which others were registered before. -/
structure Registers (entries : List (EventType × EventHandler)) (type : EventType)
    (handler : EventHandler) : Prop where
  repeated : type ∈ entries.map (·.1) →
    (ofRegistrations entries).register type.name handler.handle =
        .error (.handlerTaken type.name) ∧
      ofRegistrations (entries ++ [(type, handler)]) = ofRegistrations entries
  new : type ∉ entries.map (·.1) →
    (ofRegistrations entries).register type.name handler.handle =
      .ok (ofRegistrations (entries ++ [(type, handler)]))

theorem registers (entries : List (EventType × EventHandler)) (type : EventType)
    (handler : EventHandler) : Registers entries type handler := by
  constructor
  · intro mem
    have taken := isSome_handler?_ofRegistrations.mpr mem
    refine ⟨Bus.register_of_taken taken, ?_⟩
    rw [ofRegistrations_concat, Bus.registered, Bus.register_of_taken taken]
  · intro absent
    have free := Bool.eq_false_iff.mpr (isSome_handler?_ofRegistrations.not.mpr absent)
    rw [ofRegistrations_concat, Bus.registered, Bus.register_of_free free]

end EventBus

/-! ## Handlers -/

namespace EventHandler

def takes : EventHandler → EventType → Bool
  | creation, .launched => true
  | deletion _, .exploded => true
  | parameters _, .missionChanged => true
  | parameters _, .speedIncreased => true
  | parameters _, .speedDecreased => true
  | _, _ => false

theorem takes_ofType (guard : Guard) (type : EventType) :
    (ofType guard type).takes type = true := by
  cases type <;> rfl

theorem demand_of_not_takes {handler : EventHandler} {event : RocketEvent}
    (mistaken : handler.takes event.kind.type = false) :
    handler.demand event = .error (.wrongInput event.kind.type.name) := by
  rcases event with ⟨kind, eventId, rocketId, number, time⟩
  cases handler <;> cases kind <;> first | rfl | cases mistaken

theorem refused_of_amount {amount : Int64} {demanded : Int → Demand} {failure : HandlerFault}
    (h : (amountOf amount).map demanded = .error failure) : ∃ cause, failure = .refused cause := by
  unfold amountOf at h
  split at h
  · cases h
    exact ⟨_, rfl⟩
  · cases h

theorem refused_of_demand {handler : EventHandler} {event : RocketEvent} {failure : HandlerFault}
    (taken : handler.takes event.kind.type = true) (h : handler.demand event = .error failure) :
    ∃ cause, failure = .refused cause := by
  rcases event with ⟨kind, eventId, rocketId, number, time⟩
  cases handler with
  | creation =>
      cases kind with
      | launched rocketType launchSpeed mission =>
          cases time with
          | none =>
              cases h
              exact ⟨_, rfl⟩
          | some time =>
              cases h
      | _ =>
          cases taken
  | deletion guard =>
      cases kind with
      | exploded reason =>
          cases h
      | _ =>
          cases taken
  | parameters guard =>
      cases kind with
      | missionChanged newMission =>
          cases h
      | speedIncreased amount =>
          exact refused_of_amount h
      | speedDecreased amount =>
          exact refused_of_amount h
      | _ =>
          cases taken

end EventHandler

namespace World

variable {L C R : Type} [LockStore L] [ClaimStore C] [RocketStore R] {event : RocketEvent}

theorem play_handle_of_not_takes {handler : EventHandler}
    (mistaken : handler.takes event.kind.type = false) (w : World L C R) :
    play (handler.handle event) w =
      (.returned (.error (.wrongInput event.kind.type.name)), w) := by
  unfold EventHandler.handle
  rw [EventHandler.demand_of_not_takes mistaken]
  rfl

theorem refused_of_play_handle {handler : EventHandler} {w : World L C R} {failure : HandlerFault}
    (taken : handler.takes event.kind.type = true)
    (played : (play (handler.handle event) w).1 = .returned (.error failure)) :
    ∃ cause, failure = .refused cause := by
  unfold EventHandler.handle at played
  cases asked : handler.demand event with
  | error refusal =>
      rw [asked] at played
      cases played
      exact EventHandler.refused_of_demand taken asked
  | ok demand =>
      rw [asked] at played
      dsimp only at played
      rw [Script.bind_eq, play_bind] at played
      cases carried : play demand.carryOut w with
      | mk outcome after =>
          rw [carried] at played
          cases outcome with
          | panicked message =>
              cases played
          | returned result =>
              cases result with
              | error cause =>
                  cases played
                  exact ⟨cause, rfl⟩
              | ok r =>
                  cases played

/-! ## Dispatching -/

/-- How a dispatch of an event ends, by the first handler registered for its type. -/
structure Routed (first : Option EventHandler) (bus : EventBus) (event : RocketEvent)
    (w : World L C R) : Prop where
  unregistered : ∀ type,
    (play (bus.dispatch event) w).1 = .returned (.error (.noHandler type)) ↔
      type = event.kind.type.name ∧ first = none
  mistaken : ∀ type,
    (play (bus.dispatch event) w).1 = .returned (.error (.wrongHandler type)) ↔
      type = event.kind.type.name ∧
        ∃ handler, first = some handler ∧ handler.takes event.kind.type = false
  unchanged : (∀ handler, first = some handler → handler.takes event.kind.type = false) →
    (play (bus.dispatch event) w).2 = w
  handled : ∀ handler, first = some handler →
    play (bus.dispatch event) w =
      ((play (handler.handle event) w).1.map fun result =>
          result.mapError (.ofHandler event.kind.type.name),
        (play (handler.handle event) w).2)

theorem routed_of_none {bus : EventBus} (missing : bus.handler? event.kind.type.name = none)
    (w : World L C R) : Routed none bus event w := by
  have played : play (bus.dispatch event) w =
      (.returned (.error (.noHandler event.kind.type.name)), w) := by
    rw [dispatch_of_none missing]
    rfl
  constructor
  · intro type
    rw [played]
    constructor
    · intro told
      cases told
      exact ⟨rfl, rfl⟩
    · rintro ⟨rfl, _⟩
      rfl
  · intro type
    rw [played]
    constructor
    · intro told
      cases told
    · rintro ⟨_, handler, found, _⟩
      cases found
  · intro _
    rw [played]
  · intro handler found
    cases found

theorem play_dispatch_of_some {bus : EventBus} {handler : EventHandler}
    (found : bus.handler? event.kind.type.name = some handler.handle) (w : World L C R) :
    play (bus.dispatch event) w =
      ((play (handler.handle event) w).1.map fun result =>
          result.mapError (.ofHandler event.kind.type.name),
        (play (handler.handle event) w).2) := by
  rw [dispatch_of_some found, play_bind_value]

theorem ofHandler_of_map {ο : Type} {type : String} {outcome : Outcome (Except HandlerFault ο)}
    {fault : BusFault}
    (told : (outcome.map fun result => result.mapError (BusFault.ofHandler type)) =
      .returned (.error fault)) :
    ∃ failure, outcome = .returned (.error failure) ∧ fault = .ofHandler type failure := by
  cases outcome with
  | panicked message =>
      cases told
  | returned result =>
      cases result with
      | error failure =>
          cases told
          exact ⟨failure, rfl, rfl⟩
      | ok value =>
          cases told

theorem handlerFailed_of_dispatch {bus : EventBus} {handler : EventHandler} {w : World L C R}
    {fault : BusFault} (found : bus.handler? event.kind.type.name = some handler.handle)
    (taken : handler.takes event.kind.type = true)
    (told : (play (bus.dispatch event) w).1 = .returned (.error fault)) :
    ∃ cause, fault = .handlerFailed event.kind.type.name cause := by
  rw [play_dispatch_of_some found] at told
  rcases ofHandler_of_map told with ⟨failure, played, rfl⟩
  rcases refused_of_play_handle taken played with ⟨cause, rfl⟩
  exact ⟨cause, rfl⟩

theorem routed_of_some {bus : EventBus} {handler : EventHandler}
    (found : bus.handler? event.kind.type.name = some handler.handle) (w : World L C R) :
    Routed (some handler) bus event w := by
  cases taken : handler.takes event.kind.type with
  | true =>
      constructor
      · intro type
        constructor
        · intro told
          rcases handlerFailed_of_dispatch found taken told with ⟨cause, failed⟩
          cases failed
        · rintro ⟨_, missing⟩
          cases missing
      · intro type
        constructor
        · intro told
          rcases handlerFailed_of_dispatch found taken told with ⟨cause, failed⟩
          cases failed
        · rintro ⟨_, other, same, mistaken⟩
          cases same
          cases taken.symm.trans mistaken
      · intro mistaken
        cases taken.symm.trans (mistaken handler rfl)
      · intro other same
        cases same
        exact play_dispatch_of_some found w
  | false =>
      have played : play (bus.dispatch event) w =
          (.returned (.error (.wrongHandler event.kind.type.name)), w) := by
        rw [play_dispatch_of_some found, play_handle_of_not_takes taken]
        rfl
      constructor
      · intro type
        rw [played]
        constructor
        · intro told
          cases told
        · rintro ⟨_, missing⟩
          cases missing
      · intro type
        rw [played]
        constructor
        · intro told
          cases told
          exact ⟨rfl, handler, rfl, taken⟩
        · rintro ⟨rfl, _⟩
          rfl
      · intro _
        rw [played]
      · intro other same
        cases same
        exact play_dispatch_of_some found w

theorem routed_ofRegistrations (entries : List (EventType × EventHandler)) (event : RocketEvent)
    (w : World L C R) :
    Routed (entries.lookup event.kind.type) (.ofRegistrations entries) event w := by
  have held := EventBus.handler?_ofRegistrations entries event.kind.type
  cases first : entries.lookup event.kind.type with
  | none =>
      rw [first] at held
      exact routed_of_none held w
  | some handler =>
      rw [first] at held
      exact routed_of_some held w

/-! ## The buses of the service -/

/-- A fault, if there is one, is not one of the wiring. -/
def BlamesNoWiring {ο : Type} (outcome : Outcome (Except BusFault ο)) : Prop :=
  ∀ fault, outcome = .returned (.error fault) → fault.blamesWiring = false

theorem blamesNoWiring_dispatch_full (guard : Guard) (event : RocketEvent) (w : World L C R) :
    BlamesNoWiring (play ((EventBus.full guard).dispatch event) w).1 := by
  intro fault told
  have taken := EventHandler.takes_ofType guard event.kind.type
  rcases handlerFailed_of_dispatch (EventBus.handler?_full guard _) taken told with ⟨cause, rfl⟩
  rfl

def Fits {ο τ : Type} (shape : ο → Option τ) : Except HandlerFault ο → Prop
  | .error failure => ∃ cause, failure = .refused cause
  | .ok output => (shape output).isSome = true

theorem blamesNoWiring_dispatchExpecting {ι ο τ : Type} [Input ι] {bus : Bus ι ο} {input : ι}
    {handler : Handler ι ο} {w v : World L C R} {result : Except HandlerFault ο}
    {expected : String} {shape : ο → Option τ}
    (registered : bus.handler? (Input.type input) = some handler)
    (played : play (handler input) w = (.returned result, v)) (fits : Fits shape result) :
    BlamesNoWiring (play (bus.dispatchExpecting expected shape input) w).1 := by
  intro fault told
  rw [play_dispatchExpecting registered played] at told
  cases result with
  | error failure =>
      rcases fits with ⟨cause, rfl⟩
      cases told
      rfl
  | ok output =>
      rcases Option.isSome_iff_exists.mp fits with ⟨value, found⟩
      simp only [Bus.answer, found] at told
      cases told

theorem play_finding (text : String) (w : World L C R) :
    ∃ result, play (QueryHandler.finding.handle (.byId text)) w = (.returned result, w) ∧
      Fits QueryAnswer.rocket? result := by
  cases parsed : RocketId.parse text with
  | error violation =>
      simp only [QueryHandler.handle, parsed]
      exact ⟨_, rfl, _, rfl⟩
  | ok id =>
      have looked : play (Script.perform (.findRocket id)) w =
          (.returned (RocketStore.find id w.rockets), w) := rfl
      simp only [QueryHandler.handle, parsed]
      rw [Script.bind_eq, play_bind_of_returned looked]
      cases RocketStore.find id w.rockets with
      | error cause =>
          exact ⟨_, rfl, cause, rfl⟩
      | ok r =>
          exact ⟨_, rfl, rfl⟩

theorem play_searching (key : SortKey) (w : World L C R) :
    ∃ result, play (QueryHandler.searching.handle (.search key)) w = (.returned result, w) ∧
      Fits QueryAnswer.rockets? result := by
  have looked : play (Script.perform (.listRockets key)) w =
      (.returned (RocketStore.listing key w.rockets), w) := rfl
  simp only [QueryHandler.handle]
  rw [Script.bind_eq, play_bind_of_returned looked]
  cases RocketStore.listing key w.rockets with
  | error cause =>
      exact ⟨_, rfl, cause, rfl⟩
  | ok rockets =>
      exact ⟨_, rfl, rfl⟩

theorem blamesNoWiring_one (text : String) (w : World L C R) :
    BlamesNoWiring (play (QueryBus.full.one (.byId text)) w).1 := by
  rcases play_finding text w with ⟨result, played, fits⟩
  exact blamesNoWiring_dispatchExpecting rfl played fits

theorem blamesNoWiring_many (key : SortKey) (w : World L C R) :
    BlamesNoWiring (play (QueryBus.full.many (.search key)) w).1 := by
  rcases play_searching key w with ⟨result, played, fits⟩
  exact blamesNoWiring_dispatchExpecting rfl played fits

/--
What a bus is wired to is settled by the handlers registered first: a second handler for a type is
turned away, the types are listed in order, and an event goes to the first handler for its type,
whatever the store of rockets.  So no event that a body tells of and no question that the service
asks ends in a fault of the wiring.
-/
theorem wired_as_registered (entries : List (EventType × EventHandler)) (w : World L C R) :
    (∀ type handler, EventBus.Registers entries type handler) ∧
      (EventBus.ofRegistrations entries).types.Pairwise (· < ·) ∧
      (∀ name, name ∈ (EventBus.ofRegistrations entries).types ↔
        ∃ entry ∈ entries, entry.1.name = name) ∧
      (∀ event, Routed (entries.lookup event.kind.type) (.ofRegistrations entries) event w) ∧
      (∀ guard body event, RocketEvent.ofBody body = .ok event →
        BlamesNoWiring (play ((EventBus.full guard).dispatch event) w).1) ∧
      (∀ text, BlamesNoWiring (play (QueryBus.full.one (.byId text)) w).1) ∧
      ∀ key, BlamesNoWiring (play (QueryBus.full.many (.search key)) w).1 := by
  refine ⟨EventBus.registers entries, Bus.pairwise_types _,
    fun _ => EventBus.mem_types_ofRegistrations,
    fun event => routed_ofRegistrations entries event w, ?_,
    fun text => blamesNoWiring_one text w, fun key => blamesNoWiring_many key w⟩
  intro guard body event _
  exact blamesNoWiring_dispatch_full guard event w

def miswired : List (EventType × EventHandler) :=
  [(.speedIncreased, .creation), (.exploded, .deletion .notAfter),
    (.speedIncreased, .parameters .notAfter)]

theorem acceleration_misrouted :
    (EventBus.ofRegistrations miswired).register "RocketSpeedIncreased"
        (EventHandler.parameters .notAfter).handle =
        .error (.handlerTaken "RocketSpeedIncreased") ∧
      (play ((EventBus.ofRegistrations miswired).dispatch acceleration) unchanged).1 =
        .returned (.error (.wrongHandler "RocketSpeedIncreased")) ∧
      RocketEvent.ofBody accelerationBody = .ok acceleration ∧
      BlamesNoWiring (play ((EventBus.full .notAfter).dispatch acceleration) unchanged).1 := by
  rcases wired_as_registered miswired unchanged with
    ⟨registers, _, _, routed, resolved, _, _⟩
  refine ⟨((registers .speedIncreased (.parameters .notAfter)).repeated (by decide)).1, ?_,
    ofBody_accelerationBody, resolved .notAfter accelerationBody acceleration
      ofBody_accelerationBody⟩
  exact ((routed acceleration).mistaken "RocketSpeedIncreased").mpr ⟨rfl, .creation, rfl, rfl⟩

end World
end MissionControl
