import MissionControl.Lock.Mutex
import MissionControl.Proofs.Event.Identity
import MissionControl.Proofs.Rocket.Lifecycle
import MissionControl.Proofs.Uuid.Spellings

/-!
# Names of locks

The lock of a rocket is named by joining the service, if there is one, and the identifier of the
rocket with colons, and nothing is escaped.  A service may have any colons in its name, and an
identifier may have those of its scheme.  Still the name tells both: the last colon is in front of
the identifier or at the end of its scheme, and what stands before it is `rocket` or ends in the
scheme.
-/

namespace MissionControl

/-! ## Addresses -/

theorem ne_append_scheme {front other head : List Char}
    (introduced : head.map Char.toLower = "urn:uuid".toList) :
    front ++ "rocket".toList ≠ other ++ ':' :: head := by
  intro same
  have last : head.getLast?.map Char.toLower = some 'd' := by
    rw [← List.getLast?_map, introduced]
    rfl
  rcases Option.map_eq_some_iff.mp last with ⟨c, ending, lowered⟩
  have told := congrArg List.getLast? same
  rw [List.getLast?_append, List.getLast?_append, List.getLast?_cons, ending] at told
  cases told
  cases lowered

theorem eq_of_append_coloned {front front' text text' : List Char} (coloned : Uuid.Coloned text)
    (coloned' : Uuid.Coloned text')
    (same : (front ++ "rocket".toList) ++ ':' :: text =
      (front' ++ "rocket".toList) ++ ':' :: text') : front = front' ∧ text = text' := by
  suffices fronts : front ++ "rocket".toList = front' ++ "rocket".toList by
    rw [fronts, List.append_cancel_left_eq, List.cons.injEq] at same
    exact ⟨List.append_cancel_right fronts, same.2⟩
  cases coloned with
  | never unmarked =>
      cases coloned' with
      | never unmarked' =>
          exact eq_of_append_mark unmarked unmarked' same
      | @schemed head rest introduced unmarked' =>
          rw [← List.cons_append, ← List.append_assoc] at same
          have ends := eq_of_append_mark unmarked unmarked' same
          exact absurd ends (ne_append_scheme introduced)
  | @schemed head rest introduced unmarked =>
      rw [← List.cons_append, ← List.append_assoc] at same
      cases coloned' with
      | never unmarked' =>
          have ends := eq_of_append_mark unmarked unmarked' same
          exact absurd ends.symm (ne_append_scheme introduced)
      | @schemed head' rest' introduced' unmarked' =>
          rw [← List.cons_append, ← List.append_assoc] at same
          have ends := eq_of_append_mark unmarked unmarked' same
          have long : (':' :: head).length = (':' :: head').length := by
            have lowered := congrArg List.length (introduced.trans introduced'.symm)
            rw [List.length_map, List.length_map] at lowered
            rw [List.length_cons, List.length_cons, lowered]
          exact (List.append_inj' ends long).1

theorem coloned_of_parse {text : String} {id : RocketId} (h : RocketId.parse text = .ok id) :
    Uuid.Coloned text.toList := by
  rcases id.isUuid with ⟨uuid, read⟩
  rw [RocketId.text_parse h] at read
  rcases Uuid.spelled_of_read? (Uuid.read?_of_parse read) with ⟨form, _, spelled⟩
  exact spelled.coloned

/-! ## Services -/

namespace Mutex

def scope (service : String) : List Char :=
  if service = "" then [] else service.toList ++ [':']

theorem scope_inj {service other : String} (same : scope service = scope other) :
    service = other := by
  unfold scope at same
  split at same
  · rename_i unnamed
    split at same
    · rename_i unnamed'
      exact unnamed.trans unnamed'.symm
    · exact absurd same.symm (List.append_ne_nil_of_right_ne_nil _ (List.cons_ne_nil _ _))
  · split at same
    · exact absurd same (List.append_ne_nil_of_right_ne_nil _ (List.cons_ne_nil _ _))
    · exact String.toList_inj.mp (List.append_cancel_right same)

theorem toList_lockFor (m : Mutex) (key : String) :
    (m.lockFor key).toList =
      lockRoot.toList ++ ':' :: (scope (m.service.getD "") ++ key.toList) := by
  unfold lockFor scope
  cases m.service with
  | none =>
      simp [toString]
  | some service =>
      by_cases unnamed : service = ""
      · simp [unnamed, toString]
      · simp [unnamed, toString]

theorem toList_lockFor_lockKey (m : Mutex) (event : RocketEvent) :
    (m.lockFor event.lockKey).toList =
      (lockRoot.toList ++ ':' :: scope (m.service.getD "") ++ "rocket".toList) ++
        ':' :: event.rocketId.toList := by
  rw [toList_lockFor]
  simp [RocketEvent.lockKey, toString]

/--
Two rockets of two services have one lock exactly if their identifiers are the same text and the
services go by the same name, no service going by the empty one.
-/
theorem lockFor_lockKey_eq_iff {m m' : Mutex} {event event' : RocketEvent} {id id' : RocketId}
    (named : RocketId.parse event.rocketId = .ok id)
    (named' : RocketId.parse event'.rocketId = .ok id') :
    m.lockFor event.lockKey = m'.lockFor event'.lockKey ↔
      event.rocketId = event'.rocketId ∧ m.service.getD "" = m'.service.getD "" := by
  rw [← String.toList_inj, toList_lockFor_lockKey, toList_lockFor_lockKey]
  constructor
  · intro same
    rcases eq_of_append_coloned (coloned_of_parse named) (coloned_of_parse named') same with
      ⟨fronts, ids⟩
    have scopes := (List.cons.inj (List.append_cancel_left fronts)).2
    exact ⟨String.toList_inj.mp ids, scope_inj scopes⟩
  · rintro ⟨ids, services⟩
    rw [ids, services]

def withScheme : RocketId :=
  ⟨"urn:uuid:193270a9-c9cf-404a-8f83-838e71d9ae67", ⟨0x193270a9c9cf404a8f83838e71d9ae67⟩,
    eq_ok_of_toOption_eq_some (by decide +kernel)⟩

def withoutScheme : RocketId :=
  ⟨"193270a9-c9cf-404a-8f83-838e71d9ae67", ⟨0x193270a9c9cf404a8f83838e71d9ae67⟩,
    eq_ok_of_toOption_eq_some (by decide +kernel)⟩

def explosionOf (id : RocketId) : RocketEvent :=
  .ofFields (.exploded "PRESSURE_VESSEL_FAILURE") id.text 7 none

theorem lockFor_withoutScheme_ne :
    RocketId.parse (explosionOf withoutScheme).rocketId = .ok withoutScheme ∧
      RocketId.parse (explosionOf withScheme).rocketId = .ok withScheme ∧
      ({ service := some "rocket:urn:uuid" } : Mutex).lockFor (explosionOf withoutScheme).lockKey ≠
        ({ service := none } : Mutex).lockFor (explosionOf withScheme).lockKey := by
  have named : RocketId.parse (explosionOf withoutScheme).rocketId = .ok withoutScheme :=
    withoutScheme.parse_text
  have named' : RocketId.parse (explosionOf withScheme).rocketId = .ok withScheme :=
    withScheme.parse_text
  refine ⟨named, named', fun same => ?_⟩
  have services := ((lockFor_lockKey_eq_iff named named').mp same).2
  revert services
  decide

end Mutex
end MissionControl
