import MissionControl.Proofs.Event.Effect

/-!
# Scripts about one rocket

A handler makes all its calls under the identifier of its event, as long as the store finds under
an identifier only records that bear it.  What such a script comes to, and what it makes of its
own record, depends on that record alone, and all other records stay as they are.
-/

namespace MissionControl

variable {α β : Type}

/-! ## Scripts -/

/-- A reply that finds, if anything, a rocket whose identifier has the text. -/
def Faithful (text : String) : Outcome (Except Refusal Rocket) → Prop
  | .returned (.ok r) => r.id.text = text
  | _ => True

/-- Every call of a script is about the rocket whose identifier has the text. -/
inductive Script.About (text : String) : Script α → Prop where
  | done (value : α) : About text (.done value)
  | panicked (message : String) : About text (.panicked message)
  | find {id : RocketId} {next : Outcome (Except Refusal Rocket) → Script α} : id.text = text →
      (∀ reply, Faithful text reply → About text (next reply)) →
      About text (.call (.findRocket id) next)
  | known {id : RocketId} {next : Outcome (Except Refusal Bool) → Script α} : id.text = text →
      (∀ reply, About text (next reply)) → About text (.call (.isKnown id) next)
  | save {r : Rocket} {next : Outcome (Except Refusal Unit) → Script α} : r.id.text = text →
      (∀ reply, About text (next reply)) → About text (.call (.saveRocket r) next)

theorem Script.About.bind {text : String} {s : Script α} {f : α → Script β} (h : s.About text)
    (hf : ∀ value, (f value).About text) : (s.bind f).About text := by
  induction h with
  | done value =>
      exact hf value
  | panicked message =>
      exact .panicked message
  | find same next ih =>
      exact .find same ih
  | known same next ih =>
      exact .known same ih
  | save same next ih =>
      exact .save same ih

/-! ## Handlers -/

theorem LaunchOrder.about_carryOut (order : LaunchOrder) : order.carryOut.About order.id := by
  unfold carryOut
  cases valid : order.validate with
  | error violation =>
      exact .done _
  | ok r =>
      have same := LaunchOrder.text_validate valid
      refine .known same fun reply => ?_
      cases reply with
      | panicked message =>
          exact .panicked message
      | returned answer =>
          cases answer with
          | error failure =>
              exact .done _
          | ok known =>
              cases known with
              | true =>
                  exact .done _
              | false =>
                  refine .save same fun reply => ?_
                  cases reply with
                  | panicked message =>
                      exact .panicked message
                  | returned answer =>
                      cases answer <;> exact .done _

theorem RevisionOrder.about_carryOut (guard : Guard) (order : RevisionOrder) :
    (order.carryOut guard).About order.id := by
  unfold carryOut
  cases valid : order.validate with
  | error violation =>
      exact .done _
  | ok checked =>
      rcases checked with ⟨id, changes⟩
      refine .find (RevisionOrder.text_validate valid) fun reply faithful => ?_
      cases reply with
      | panicked message =>
          exact .panicked message
      | returned answer =>
          cases answer with
          | error failure =>
              exact .done _
          | ok r =>
              have same : (r.reviseAll guard changes).id.text = order.id := by
                rw [Rocket.id_reviseAll]
                exact faithful
              refine .save same fun reply => ?_
              cases reply with
              | panicked message =>
                  exact .panicked message
              | returned answer =>
                  cases answer <;> exact .done _

theorem EventHandler.about_handle (handler : EventHandler) (event : RocketEvent) :
    (handler.handle event).About event.rocketId := by
  unfold handle
  cases asked : handler.demand event with
  | error failure =>
      exact .done _
  | ok demand =>
      have same := EventHandler.rocketId_demand asked
      refine Script.About.bind ?_ fun result => ?_
      · rw [← same]
        cases demand with
        | launch order =>
            exact order.about_carryOut
        | revision guard order =>
            exact order.about_carryOut guard
      · cases result <;> exact .done _

/-! ## Locality -/

theorem Fleet.find_congr {a b : Fleet} {id : RocketId}
    (h : a.recordAt id.text = b.recordAt id.text) : a.find id = b.find id := by
  unfold find
  rw [record?_eq_recordAt, record?_eq_recordAt, h]

theorem Fleet.isKnown_congr {a b : Fleet} {id : RocketId}
    (h : a.recordAt id.text = b.recordAt id.text) : a.isKnown id = b.isKnown id := by
  rw [isKnown_eq_isSome, isKnown_eq_isSome, h]

theorem Fleet.faithful_find (fleet : Fleet) (id : RocketId) :
    Faithful id.text (.returned (fleet.find id)) := by
  cases found : fleet.find id with
  | error failure =>
      trivial
  | ok r =>
      exact text_of_find found

namespace Script.About

variable {L C : Type} [LockStore L] [ClaimStore C] {text : String} {c : Call}
  {next : Outcome c.Reply → Script α}

theorem isOnRockets (h : (Script.call c next).About text) : c.isOnRockets = true := by
  cases h <;> rfl

theorem next_serve (h : (Script.call c next).About text) (w : World L C Fleet) :
    (next (w.serve c).reply).About text := by
  cases h with
  | find own rest =>
      subst own
      exact rest _ (Fleet.faithful_find w.rockets _)
  | known own rest =>
      exact rest _
  | save own rest =>
      exact rest _

theorem serve_congr (h : (Script.call c next).About text) {v w : World L C Fleet}
    (same : v.rockets.recordAt text = w.rockets.recordAt text) :
    (v.serve c).reply = (w.serve c).reply ∧
      (v.serve c).world.rockets.recordAt text = (w.serve c).world.rockets.recordAt text := by
  cases h with
  | find own rest =>
      subst own
      exact ⟨congrArg Outcome.returned (Fleet.find_congr same), same⟩
  | known own rest =>
      subst own
      refine ⟨?_, same⟩
      show Outcome.returned (Except.ok _) = Outcome.returned (Except.ok _)
      rw [Fleet.isKnown_congr same]
  | save own rest =>
      refine ⟨rfl, ?_⟩
      show (v.rockets.save _).recordAt text = (w.rockets.save _).recordAt text
      rw [Fleet.recordAt_save, Fleet.recordAt_save, same]

theorem serve_elsewhere (h : (Script.call c next).About text) (w : World L C Fleet)
    {other : String} (apart : other ≠ text) :
    (w.serve c).world.rockets.recordAt other = w.rockets.recordAt other := by
  cases h with
  | find own rest =>
      rfl
  | known own rest =>
      rfl
  | save own rest =>
      show (w.rockets.save _).recordAt other = _
      rw [Fleet.recordAt_save, own, if_neg apart]

/-- What a script about one rocket comes to depends on its record alone. -/
theorem play_congr {s : Script α} (h : s.About text) {v w : World L C Fleet}
    (same : v.rockets.recordAt text = w.rockets.recordAt text) :
    (World.play s v).1 = (World.play s w).1 ∧
      (World.play s v).2.rockets.recordAt text = (World.play s w).2.rockets.recordAt text := by
  induction s generalizing v w with
  | done value =>
      exact ⟨rfl, same⟩
  | panicked message =>
      exact ⟨rfl, same⟩
  | call c next ih =>
      rcases h.serve_congr same with ⟨reply, record⟩
      rw [World.play_call, World.play_call, reply]
      exact ih _ (h.next_serve w) record

theorem play_next (h : (Script.call c next).About text) (w : World L C Fleet) :
    (World.play (next (w.serve c).reply) (w.serve c).world).1 =
        (World.play (.call c next) w).1 ∧
      (World.play (next (w.serve c).reply) (w.serve c).world).2.rockets.recordAt text =
        (World.play (.call c next) w).2.rockets.recordAt text := by
  rw [World.play_call]
  exact (h.next_serve w).play_congr rfl

/-- A script about one rocket leaves all others as they are. -/
theorem play_elsewhere {s : Script α} (h : s.About text) (w : World L C Fleet) {other : String}
    (apart : other ≠ text) :
    (World.play s w).2.rockets.recordAt other = w.rockets.recordAt other := by
  induction s generalizing w with
  | done value =>
      rfl
  | panicked message =>
      rfl
  | call c next ih =>
      rw [World.play_call, ih _ (h.next_serve w)]
      exact h.serve_elsewhere w apart

end Script.About

end MissionControl
