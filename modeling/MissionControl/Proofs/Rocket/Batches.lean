import MissionControl.Proofs.Rocket.Listing
import MissionControl.Proofs.Rocket.Replay
import MissionControl.StandIn.Rockets

/-!
# Batches of changes

Changes that are asked for together are all checked before any of them is made.  A batch is then
refused and leaves every record as it is, or it changes one record and comes to what its changes
come to when they are asked for one at a time.
-/

namespace MissionControl

/-! ## Checked lists -/

variable {ε α β : Type}

theorem mapM_eq_ok_iff {f : α → Except ε β} {xs : List α} {ys : List β} :
    xs.mapM f = .ok ys ↔ List.Forall₂ (fun x y => f x = .ok y) xs ys := by
  induction xs generalizing ys with
  | nil =>
      rw [List.mapM_nil, List.forall₂_nil_left_iff]
      constructor
      · intro told
        cases told
        rfl
      · rintro rfl
        rfl
  | cons x rest ih =>
      rw [List.mapM_cons, bind_eq_ok_iff, List.forall₂_cons_left_iff]
      constructor
      · rintro ⟨y, passed, told⟩
        rcases exists_of_bind_eq_ok told with ⟨others, mapped, told⟩
        cases told
        exact ⟨y, others, passed, ih.mp mapped, rfl⟩
      · rintro ⟨y, others, passed, mapped, rfl⟩
        refine ⟨y, passed, ?_⟩
        rw [ih.mpr mapped]
        rfl

theorem mapM_eq_error {f : α → Except ε β} {earlier later : List α} {x : α} {cause : ε}
    (passed : ∀ other ∈ earlier, ∃ y, f other = .ok y) (failed : f x = .error cause) :
    (earlier ++ x :: later).mapM f = .error cause := by
  induction earlier with
  | nil =>
      rw [List.nil_append, List.mapM_cons, failed]
      rfl
  | cons first rest ih =>
      rcases List.forall_mem_cons.mp passed with ⟨⟨y, passes⟩, others⟩
      rw [List.cons_append, List.mapM_cons, passes, ok_bind, ih others]
      rfl

theorem forall_ok_or_first_error (f : α → Except ε β) (xs : List α) :
    (∀ x ∈ xs, ∃ y, f x = .ok y) ∨
      ∃ earlier x later cause, xs = earlier ++ x :: later ∧
        (∀ other ∈ earlier, ∃ y, f other = .ok y) ∧ f x = .error cause := by
  induction xs with
  | nil =>
      exact .inl fun x mem => absurd mem List.not_mem_nil
  | cons first rest ih =>
      cases checked : f first with
      | error cause =>
          refine .inr ⟨[], first, rest, cause, rfl, ?_, checked⟩
          intro x mem
          cases mem
      | ok y =>
          rcases ih with passed | ⟨earlier, x, later, cause, rfl, passed, failed⟩
          · exact .inl (List.forall_mem_cons.mpr ⟨⟨y, checked⟩, passed⟩)
          · exact .inr ⟨first :: earlier, x, later, cause, rfl,
              List.forall_mem_cons.mpr ⟨⟨y, checked⟩, passed⟩, failed⟩

theorem exists_forall₂ {related : α → β → Prop} {xs : List α}
    (each : ∀ x ∈ xs, ∃ y, related x y) : ∃ ys, List.Forall₂ related xs ys := by
  induction xs with
  | nil =>
      exact ⟨[], .nil⟩
  | cons x rest ih =>
      rcases List.forall_mem_cons.mp each with ⟨⟨y, first⟩, others⟩
      rcases ih others with ⟨ys, rest⟩
      exact ⟨y :: ys, .cons first rest⟩

/-! ## Rockets that end -/

namespace Rocket

variable {guard : Guard} {r : Rocket} {change : Change} {changes : List Change}

/-- Among some changes to a rocket there is a deletion that counts. -/
def Ends (guard : Guard) (r : Rocket) (changes : List Change) : Prop :=
  ∃ earlier change later, changes = earlier ++ change :: later ∧ change.edit = .deletion ∧
    ((r.reviseAll guard earlier).admitted? guard change).isSome = true

theorem reviseAll_cons (guard : Guard) (r : Rocket) (change : Change) (rest : List Change) :
    r.reviseAll guard (change :: rest) = (r.revise guard change).reviseAll guard rest := rfl

theorem reviseAll_of_isDeleted (deleted : r.isDeleted = true) (changes : List Change) :
    r.reviseAll guard changes = r :=
  (r.precedes_reviseAll guard changes).ended deleted

theorem not_ends_nil : ¬Ends guard r [] := by
  rintro ⟨earlier, change, later, split, _⟩
  cases earlier <;> cases split

theorem ends_cons_iff {rest : List Change} :
    Ends guard r (change :: rest) ↔
      (change.edit = .deletion ∧ (r.admitted? guard change).isSome = true) ∨
        Ends guard (r.revise guard change) rest := by
  constructor
  · rintro ⟨earlier, last, later, split, deletes, counted⟩
    cases earlier with
    | nil =>
        cases split
        exact .inl ⟨deletes, counted⟩
    | cons first others =>
        cases split
        exact .inr ⟨others, last, later, rfl, deletes, counted⟩
  · rintro (⟨deletes, counted⟩ | ⟨earlier, last, later, rfl, deletes, counted⟩)
    · exact ⟨[], change, rest, rfl, deletes, counted⟩
    · exact ⟨change :: earlier, last, later, rfl, deletes, counted⟩

theorem isDeleted_revise_iff (live : r.isDeleted = false) :
    (r.revise guard change).isDeleted = true ↔
      change.edit = .deletion ∧ (r.admitted? guard change).isSome = true := by
  unfold revise
  cases counted : r.admitted? guard change with
  | none =>
      simp [live]
  | some time =>
      rw [Option.isSome_some]
      cases edit : change.edit with
      | speed amount =>
          simpa [edited, isDeleted] using live
      | mission mission =>
          simpa [edited, isDeleted] using live
      | deletion =>
          simp [edited, isDeleted]

theorem isDeleted_reviseAll_iff (live : r.isDeleted = false) :
    (r.reviseAll guard changes).isDeleted = true ↔ Ends guard r changes := by
  induction changes generalizing r with
  | nil =>
      have stays : r.reviseAll guard [] = r := rfl
      rw [stays, live]
      exact ⟨fun gone => absurd gone Bool.false_ne_true, fun ends => absurd ends not_ends_nil⟩
  | cons change rest ih =>
      rw [reviseAll_cons, ends_cons_iff, ← isDeleted_revise_iff live]
      cases deleted : (r.revise guard change).isDeleted with
      | true =>
          rw [reviseAll_of_isDeleted deleted, deleted]
          exact ⟨fun _ => .inl rfl, fun _ => rfl⟩
      | false =>
          rw [ih deleted]
          exact ⟨.inr, fun ends => ends.resolve_left Bool.false_ne_true⟩

end Rocket

/-! ## Refusals -/

namespace RevisionOrder

variable {order : RevisionOrder} {fleet : Fleet} {refusal : Refusal}

/-- Why changes to one rocket are refused; what is looked at first is told first. -/
inductive Refused (order : RevisionOrder) (fleet : Fleet) : Refusal → Prop where
  | id {violation : Violation} : RocketId.parse order.id = .error violation →
      Refused order fleet (.brokenRule violation)
  | change {id : RocketId} {earlier later : List ChangeRequest} {request : ChangeRequest}
      {violation : Violation} : RocketId.parse order.id = .ok id →
      order.changes = earlier ++ request :: later →
      (∀ other ∈ earlier, ∃ change, other.validate = .ok change) →
      request.validate = .error violation → Refused order fleet (.brokenRule violation)
  | rocket {id : RocketId} : RocketId.parse order.id = .ok id →
      (∀ request ∈ order.changes, ∃ change, request.validate = .ok change) →
      (¬∃ r, fleet.recordAt order.id = some r ∧ r.isDeleted = false) →
      Refused order fleet (.notFound order.id)

theorem validate_eq_ok {id : RocketId} {changes : List Change}
    (named : RocketId.parse order.id = .ok id)
    (checked : List.Forall₂ (fun request change => request.validate = .ok change)
      order.changes changes) :
    order.validate = .ok (id, changes) := by
  unfold validate
  rw [named, ok_bind, mapM_eq_ok_iff.mpr checked]
  rfl

theorem exists_of_not_refused (unrefused : ∀ refusal, ¬order.Refused fleet refusal) :
    ∃ id changes r, RocketId.parse order.id = .ok id ∧
      List.Forall₂ (fun request change => request.validate = .ok change) order.changes changes ∧
      fleet.recordAt order.id = some r ∧ r.isDeleted = false := by
  cases named : RocketId.parse order.id with
  | error violation =>
      exact absurd (.id named) (unrefused _)
  | ok id =>
      rcases forall_ok_or_first_error ChangeRequest.validate order.changes with
        passed | ⟨earlier, request, later, violation, split, passed, failed⟩
      · by_cases live : ∃ r, fleet.recordAt order.id = some r ∧ r.isDeleted = false
        · rcases live with ⟨r, recorded, live⟩
          rcases exists_forall₂ passed with ⟨changes, checked⟩
          exact ⟨id, changes, r, rfl, checked, recorded, live⟩
        · exact absurd (.rocket named passed live) (unrefused _)
      · exact absurd (.change named split passed failed) (unrefused _)

theorem validate_eq_error (refused : order.Refused fleet refusal) :
    (∃ violation, order.validate = .error violation ∧ refusal = .brokenRule violation) ∨
      ∃ id changes, order.validate = .ok (id, changes) ∧ fleet.find id = .error refusal := by
  cases refused with
  | @id violation misnamed =>
      refine .inl ⟨violation, ?_, rfl⟩
      unfold validate
      rw [misnamed]
      rfl
  | @change id earlier later request violation named split passed failed =>
      refine .inl ⟨violation, ?_, rfl⟩
      unfold validate
      rw [named, ok_bind, split, mapM_eq_error passed failed]
      rfl
  | @rocket id named passed dead =>
      rcases exists_forall₂ passed with ⟨changes, checked⟩
      have text := RocketId.text_parse named
      refine .inr ⟨id, changes, validate_eq_ok named checked, ?_⟩
      rw [← text] at dead ⊢
      exact Fleet.find_eq_error_iff.mpr ⟨rfl, dead⟩

end RevisionOrder

/-! ## One batch -/

theorem Fleet.save_save {fleet : Fleet} {r s : Rocket} (same : s.id = r.id) :
    (fleet.save r).save s = fleet.save s := by
  apply ext_recordAt
  intro text
  rw [recordAt_save, recordAt_save, recordAt_save, same]
  split <;> rfl

theorem Fleet.recordAt_save_revise {fleet : Fleet} {text : String} {r : Rocket}
    (recorded : fleet.recordAt text = some r) (guard : Guard) (change : Change) :
    (fleet.save (r.revise guard change)).recordAt text = some (r.revise guard change) := by
  rw [recordAt_save, Rocket.id_revise, text_of_recordAt recorded, if_pos rfl]

/-- A store of which a save that fails leaves everything as it is. -/
def SavesWholly {R : Type} [RocketStore R] (rockets : R) : Prop :=
  ∀ r, (RocketStore.save r rockets).1 ≠ .returned (.ok ()) →
    (RocketStore.save r rockets).2 = rockets

theorem AnyRockets.savesWholly (rockets : AnyRockets) : SavesWholly rockets := by
  intro r failed
  cases rockets with
  | fleet rockets =>
      exact absurd rfl failed
  | unreachable =>
      rfl
  | full rockets =>
      rfl
  | explosive rockets =>
      rfl

namespace World

variable {L C R : Type} [LockStore L] [ClaimStore C] {guard : Guard} {order : RevisionOrder}

theorem play_revision_over_store [RocketStore R] (guard : Guard) (order : RevisionOrder)
    (v : World L C R) :
    (∃ refusal, play (order.carryOut guard) v = (.returned (.error refusal), v)) ∨
      ∃ r, play (order.carryOut guard) v =
        ((RocketStore.save r v.rockets).1.map fun saved => saved.map fun _ => r,
          { v with rockets := (RocketStore.save r v.rockets).2 }) := by
  unfold RevisionOrder.carryOut
  cases order.validate with
  | error violation =>
      exact .inl ⟨_, rfl⟩
  | ok checked =>
      rcases checked with ⟨id, changes⟩
      have asked : play (Script.perform (.findRocket id)) v =
          (.returned (RocketStore.find id v.rockets), v) := rfl
      dsimp only
      rw [Script.bind_eq, play_bind_of_returned asked]
      cases RocketStore.find id v.rockets with
      | error failure =>
          exact .inl ⟨failure, rfl⟩
      | ok r =>
          refine .inr ⟨r.reviseAll guard changes, ?_⟩
          have saved : play (Script.perform (.saveRocket (r.reviseAll guard changes))) v =
              ((RocketStore.save (r.reviseAll guard changes) v.rockets).1,
                { v with rockets := (RocketStore.save (r.reviseAll guard changes) v.rockets).2 }) :=
            play_perform (.saveRocket (r.reviseAll guard changes)) v
          dsimp only
          rw [Script.bind_eq, play_bind, saved]
          cases (RocketStore.save (r.reviseAll guard changes) v.rockets).1 with
          | panicked message =>
              rfl
          | returned answer =>
              cases answer <;> rfl

theorem play_revision_of_failed [RocketStore R] {v : World L C R} (whole : SavesWholly v.rockets)
    (failed : ∀ r, (play (order.carryOut guard) v).1 ≠ .returned (.ok r)) :
    (play (order.carryOut guard) v).2 = v := by
  rcases play_revision_over_store guard order v with ⟨refusal, played⟩ | ⟨r, played⟩
  · rw [played]
  · rw [played] at failed ⊢
    have unsaved : (RocketStore.save r v.rockets).1 ≠ .returned (.ok ()) := by
      intro saved
      rw [saved] at failed
      exact failed r rfl
    dsimp only
    rw [whole r unsaved]

theorem play_revision_of_refused {w : World L C Fleet} {refusal : Refusal}
    (refused : order.Refused w.rockets refusal) :
    play (order.carryOut guard) w = (.returned (.error refusal), w) := by
  rcases RevisionOrder.validate_eq_error refused with
    ⟨violation, invalid, rfl⟩ | ⟨id, changes, valid, missing⟩
  · exact play_revision_of_rejected guard invalid w
  · exact play_revision_of_find guard valid missing

/-- What a batch of valid changes comes to, for a rocket on record. -/
theorem play_revision_of_recordAt {w : World L C Fleet} {id : RocketId} {changes : List Change}
    {r : Rocket} (named : RocketId.parse order.id = .ok id)
    (checked : List.Forall₂ (fun request change => request.validate = .ok change)
      order.changes changes)
    (recorded : w.rockets.recordAt order.id = some r) :
    play (order.carryOut guard) w =
      (.returned (if r.isDeleted then .error (.notFound order.id)
          else .ok (r.reviseAll guard changes)),
        { w with rockets := w.rockets.save (r.reviseAll guard changes) }) := by
  have valid := RevisionOrder.validate_eq_ok named checked
  have text := RocketId.text_parse named
  rw [← text] at recorded
  cases deleted : r.isDeleted with
  | true =>
      have missing : w.rockets.find id = .error (.notFound order.id) := by
        rw [Fleet.find_eq_error_iff, recorded, text]
        refine ⟨rfl, ?_⟩
        rintro ⟨s, same, alive⟩
        cases same
        rw [deleted] at alive
        cases alive
      have kept : w.rockets.save r = w.rockets := by
        apply Fleet.save_of_recordAt
        rw [Fleet.text_of_recordAt recorded, recorded]
      rw [play_revision_of_find guard valid missing, Rocket.reviseAll_of_isDeleted deleted, kept]
      rfl
  | false =>
      rw [play_revision_of_find guard valid (Fleet.find_eq_ok_iff.mpr ⟨recorded, deleted⟩)]
      rfl

/-! ## One change at a time -/

/-- Asks for changes one at a time; what each comes to, and the world after the last of them. -/
def revisedSingly (guard : Guard) (id : String) : List ChangeRequest → World L C Fleet →
    List (Outcome (Except Refusal Rocket)) × World L C Fleet
  | [], w => ([], w)
  | request :: rest, w =>
      let first := play (RevisionOrder.carryOut guard ⟨id, [request]⟩) w
      let others := revisedSingly guard id rest first.2
      (first.1 :: others.1, others.2)

variable {id : RocketId} {text : String} {request : ChangeRequest} {requests : List ChangeRequest}
  {change : Change} {changes : List Change} {r : Rocket} {w : World L C Fleet}

theorem play_single_revision (named : RocketId.parse text = .ok id)
    (checked : request.validate = .ok change) (recorded : w.rockets.recordAt text = some r) :
    play (RevisionOrder.carryOut guard ⟨text, [request]⟩) w =
      (.returned (if r.isDeleted then .error (.notFound text) else .ok (r.revise guard change)),
        { w with rockets := w.rockets.save (r.revise guard change) }) := by
  have single : List.Forall₂ (fun request change => request.validate = .ok change)
      [request] [change] := .cons checked .nil
  exact @play_revision_of_recordAt L C _ _ guard ⟨text, [request]⟩ w id [change] r named single
    recorded

/-- Changes made one at a time leave what they leave when they are made together. -/
theorem world_revisedSingly (named : RocketId.parse text = .ok id)
    (checked : List.Forall₂ (fun request change => request.validate = .ok change)
      requests changes)
    (recorded : w.rockets.recordAt text = some r) :
    (revisedSingly guard text requests w).2 =
      { w with rockets := w.rockets.save (r.reviseAll guard changes) } := by
  induction checked generalizing r w with
  | nil =>
      have kept : w.rockets.save r = w.rockets := by
        apply Fleet.save_of_recordAt
        rw [Fleet.text_of_recordAt recorded, recorded]
      show w = { w with rockets := w.rockets.save r }
      rw [kept]
  | cons first rest ih =>
      rw [revisedSingly, play_single_revision named first recorded, Rocket.reviseAll_cons]
      rw [ih (Fleet.recordAt_save_revise recorded guard _)]
      dsimp only
      rw [Fleet.save_save]
      exact Rocket.id_reviseAll guard _ _

theorem answer_revisedSingly (named : RocketId.parse text = .ok id)
    (checked : List.Forall₂ (fun request change => request.validate = .ok change)
      requests changes)
    (recorded : w.rockets.recordAt text = some r) {n : Nat} (inside : n < changes.length) :
    (revisedSingly guard text requests w).1[n]? =
      some (.returned (if (r.reviseAll guard (changes.take n)).isDeleted
        then .error (.notFound text) else .ok (r.reviseAll guard (changes.take (n + 1))))) := by
  induction checked generalizing r w n with
  | nil =>
      cases inside
  | cons first rest ih =>
      rw [revisedSingly, play_single_revision named first recorded]
      cases n with
      | zero =>
          rfl
      | succ n =>
          have saved := Fleet.recordAt_save_revise recorded guard
          rw [List.getElem?_cons_succ, ih (saved _) (Nat.lt_of_succ_lt_succ inside)]
          rfl

/-! ## Batches -/

/-- What is left of a batch that is carried out. -/
structure Revised (guard : Guard) (order : RevisionOrder) (w : World L C Fleet) (r : Rocket)
    (changes : List Change) (w' : World L C Fleet) : Prop where
  checked : List.Forall₂ (fun request change => request.validate = .ok change)
    order.changes changes
  found : w.rockets.recordAt order.id = some r
  live : r.isDeleted = false
  told : play (order.carryOut guard) w = (.returned (.ok (r.reviseAll guard changes)), w')
  stored : w'.rockets.recordAt order.id = some (r.reviseAll guard changes)
  elsewhere : ∀ text, text ≠ order.id → w'.rockets.recordAt text = w.rockets.recordAt text
  /-- The changes made one at a time leave the same. -/
  singly : (revisedSingly guard order.id order.changes w).2 = w'
  /-- A change made by itself is answered with the rocket after it, as long as there is one. -/
  answered : ∀ n < changes.length, ¬Rocket.Ends guard r (changes.take n) →
    (revisedSingly guard order.id order.changes w).1[n]? =
      some (.returned (.ok (r.reviseAll guard (changes.take (n + 1)))))
  /-- After a deletion that counts no rocket is found any more. -/
  ended : ∀ n < changes.length, Rocket.Ends guard r (changes.take n) →
    (revisedSingly guard order.id order.changes w).1[n]? =
      some (.returned (.error (.notFound order.id)))

theorem revised_of_recordAt (named : RocketId.parse order.id = .ok id)
    (checked : List.Forall₂ (fun request change => request.validate = .ok change)
      order.changes changes)
    (recorded : w.rockets.recordAt order.id = some r) (live : r.isDeleted = false) :
    Revised guard order w r changes
      { w with rockets := w.rockets.save (r.reviseAll guard changes) } := by
  have text : (r.reviseAll guard changes).id.text = order.id := by
    rw [Rocket.id_reviseAll, Fleet.text_of_recordAt recorded]
  constructor
  · exact checked
  · exact recorded
  · exact live
  · rw [play_revision_of_recordAt named checked recorded, live]
    rfl
  · show (w.rockets.save (r.reviseAll guard changes)).recordAt order.id = _
    rw [Fleet.recordAt_save, if_pos text.symm]
  · intro other apart
    show (w.rockets.save (r.reviseAll guard changes)).recordAt other = _
    rw [Fleet.recordAt_save, text, if_neg apart]
  · exact world_revisedSingly named checked recorded
  · intro n inside lives
    rw [answer_revisedSingly named checked recorded inside, if_neg]
    rw [Rocket.isDeleted_reviseAll_iff live]
    exact lives
  · intro n inside ends
    rw [answer_revisedSingly named checked recorded inside, if_pos]
    exact (Rocket.isDeleted_reviseAll_iff live).mpr ends

/--
A batch of changes is refused, for the first reason there is, and changes nothing; or it is carried
out, and comes to what its changes come to one at a time.  Over any store of rockets nothing is left
of a batch that fails, as long as nothing is left of a save that fails.
-/
theorem revised_together_or_not_at_all (guard : Guard) (order : RevisionOrder)
    (w : World L C Fleet) :
    (∀ refusal, order.Refused w.rockets refusal →
        play (order.carryOut guard) w = (.returned (.error refusal), w)) ∧
      ((∀ refusal, ¬order.Refused w.rockets refusal) →
        ∃ r changes w', Revised guard order w r changes w') ∧
      ∀ (R : Type) [RocketStore R] (v : World L C R), SavesWholly v.rockets →
        (∀ r, (play (order.carryOut guard) v).1 ≠ .returned (.ok r)) →
        (play (order.carryOut guard) v).2 = v := by
  refine ⟨fun refusal refused => play_revision_of_refused refused, fun unrefused => ?_, ?_⟩
  · rcases RevisionOrder.exists_of_not_refused unrefused with
      ⟨id, changes, r, named, checked, recorded, live⟩
    exact ⟨r, changes, _, revised_of_recordAt named checked recorded live⟩
  · intro R _ v whole failed
    exact play_revision_of_failed whole failed

def farewell : RevisionOrder :=
  { id := acceleration.rocketId
    changes := [⟨.speed 100, some ⟨1, 0⟩⟩, ⟨.deletion, some ⟨2, 0⟩⟩, ⟨.speed 5, some ⟨3, 0⟩⟩] }

def unsaving : World AnyLocks ClaimRecords AnyRockets :=
  { locks := .leases {}, claims := .start .epoch, rockets := .full oneRocket
    clock := .standing .epoch }

theorem farewell_revised_or_unsaved :
    (∃ r changes w', Revised .strictlyAfter farewell unchanged r changes w' ∧
        (r.reviseAll .strictlyAfter changes).speed = 600) ∧
      (revisedSingly .strictlyAfter farewell.id farewell.changes unchanged).1[2]? =
        some (.returned (.error (.notFound farewell.id))) ∧
      (play (farewell.carryOut .strictlyAfter) unsaving).1 =
        .returned (.error (.storeFailed "disk full")) ∧
      (play (farewell.carryOut .strictlyAfter) unsaving).2 = unsaving := by
  have told : ((play (farewell.carryOut .strictlyAfter) unchanged).1.map fun result =>
      result.map (·.speed)) = .returned (.ok 600) := by
    decide +kernel
  have failed : (play (farewell.carryOut .strictlyAfter) unsaving).1 =
      .returned (.error (.storeFailed "disk full")) := by
    decide +kernel
  have batch := revised_together_or_not_at_all .strictlyAfter farewell unchanged
  have unrefused : ∀ refusal, ¬farewell.Refused unchanged.rockets refusal := by
    intro refusal refused
    rw [batch.1 refusal refused] at told
    cases told
  refine ⟨?_, by decide +kernel, failed, ?_⟩
  · rcases batch.2.1 unrefused with ⟨r, changes, w', revised⟩
    rw [revised.told] at told
    exact ⟨r, changes, w', revised, Except.ok.inj (Outcome.returned.inj told)⟩
  · apply batch.2.2 AnyRockets unsaving (AnyRockets.savesWholly _)
    intro r succeeded
    rw [failed] at succeeded
    cases succeeded

end World
end MissionControl
