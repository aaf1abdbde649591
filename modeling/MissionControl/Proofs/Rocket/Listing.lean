import MissionControl.Proofs.Rocket.Lifecycle
import MissionControl.Proofs.World.Moments
import MissionControl.Query

/-!
# Listings

What is asked about the rockets is answered from the records saved last, one for each identifier.
The list of rockets holds each rocket that can be found, once, in the order that its token asks
for, and the smaller identifier goes first where the token does not tell two rockets apart.
-/

namespace MissionControl

/-! ## Sorting -/

namespace SortField

variable {a b c : Rocket}

theorem le_trans (field : SortField) (hab : field.le a b = true) (hbc : field.le b c = true) :
    field.le a c = true := by
  cases field with
  | createdAt =>
      exact decide_eq_true (Instant.le_trans (of_decide_eq_true hab) (of_decide_eq_true hbc))
  | updatedAt =>
      exact decide_eq_true (Instant.le_trans (of_decide_eq_true hab) (of_decide_eq_true hbc))
  | launchSpeed =>
      exact decide_eq_true (Int.le_trans (of_decide_eq_true hab) (of_decide_eq_true hbc))
  | identifier =>
      rfl

theorem le_total (field : SortField) (a b : Rocket) : (field.le a b || field.le b a) = true := by
  have total (t u : Instant) : t ≤ u ∨ u ≤ t := by
    rw [Instant.le_iff, Instant.le_iff]
    omega
  cases field with
  | createdAt =>
      simpa [le] using total a.createdAt b.createdAt
  | updatedAt =>
      simpa [le] using total a.updatedAt b.updatedAt
  | launchSpeed =>
      simpa [le] using Int.le_total a.speed b.speed
  | identifier =>
      rfl

end SortField

namespace SortKey

theorem le_trans (key : SortKey) (a b c : Rocket) (hab : key.le a b = true)
    (hbc : key.le b c = true) : key.le a c = true := by
  unfold le at *
  split
  · rename_i ascending
    rw [if_pos ascending] at hab hbc
    exact key.field.le_trans hab hbc
  · rename_i descending
    rw [if_neg descending] at hab hbc
    exact key.field.le_trans hbc hab

theorem le_total (key : SortKey) (a b : Rocket) : (key.le a b || key.le b a) = true := by
  unfold le
  split
  · exact key.field.le_total a b
  · exact key.field.le_total b a

def ties (key : SortKey) (a b : Rocket) : Bool :=
  key.le a b && key.le b a

theorem filter_sort (key : SortKey) (a : Rocket) (rockets : List Rocket) :
    (key.sort rockets).filter (key.ties a) = rockets.filter (key.ties a) := by
  have tied : (rockets.filter (key.ties a)).Pairwise fun x y => key.le x y = true := by
    rw [List.pairwise_iff_forall_sublist]
    intro x y pair
    have tieX : key.ties a x = true := List.of_mem_filter (pair.subset List.mem_cons_self)
    have tieY : key.ties a y = true := List.of_mem_filter (pair.subset (by simp))
    unfold ties at tieX tieY
    rw [Bool.and_eq_true] at tieX tieY
    exact key.le_trans x a y tieX.2 tieY.1
  have kept : (rockets.filter (key.ties a)).Sublist (key.sort rockets) :=
    List.sublist_mergeSort key.le_trans key.le_total tied List.filter_sublist
  have within : (rockets.filter (key.ties a)).Sublist ((key.sort rockets).filter (key.ties a)) := by
    simpa using kept.filter (key.ties a)
  exact (within.eq_of_length ((List.mergeSort_perm rockets key.le).filter _).length_eq.symm).symm

/-- The one rocket goes before the other by the key, or else by its identifier. -/
structure Puts (key : SortKey) (a b : Rocket) : Prop where
  le : key.le a b = true
  tied : key.le b a = true → a.id.text < b.id.text

theorem pairwise_sort (key : SortKey) {rockets : List Rocket}
    (ordered : rockets.Pairwise fun a b => a.id.text < b.id.text) :
    (key.sort rockets).Pairwise key.Puts := by
  rw [List.pairwise_iff_forall_sublist]
  intro a b pair
  have sorted := List.pairwise_mergeSort key.le_trans key.le_total rockets
  have le : key.le a b = true := List.pairwise_iff_forall_sublist.mp sorted pair
  refine ⟨le, fun ge => ?_⟩
  have tieA : key.ties a a = true := by
    simp [ties, key.le_trans a b a le ge]
  have tieB : key.ties a b = true := by
    simp [ties, le, ge]
  have tied := pair.filter (key.ties a)
  rw [filter_sort, List.filter_cons_of_pos tieA, List.filter_cons_of_pos tieB] at tied
  exact List.pairwise_iff_forall_sublist.mp ordered (tied.trans List.filter_sublist)

end SortKey

/-! ## Orders of views -/

theorem Instant.lt_or_eq_of_le {a b : Instant} (le : a ≤ b) : a < b ∨ a = b := by
  by_cases ge : b ≤ a
  · exact .inr (Instant.le_antisymm le ge)
  · exact .inl (Instant.not_le.mp ge)

namespace RocketView

variable {κ : Type} [LT κ] {field : RocketView → κ} {a b : RocketView}

/-- A field goes up, and where it stays the same the identifier does. -/
def Rises (field : RocketView → κ) (a b : RocketView) : Prop :=
  field a < field b ∨ field a = field b ∧ a.id < b.id

/-- A field goes down, and where it stays the same the identifier still goes up. -/
def Falls (field : RocketView → κ) (a b : RocketView) : Prop :=
  field b < field a ∨ field a = field b ∧ a.id < b.id

theorem rises_of_le [LE κ] (split : field a ≤ field b → field a < field b ∨ field a = field b)
    (le : field a ≤ field b) (tied : field b ≤ field a → a.id < b.id) : Rises field a b := by
  rcases split le with lt | same
  · exact .inl lt
  · exact .inr ⟨same, tied (same ▸ le)⟩

theorem falls_of_le [LE κ] (split : field b ≤ field a → field b < field a ∨ field b = field a)
    (le : field b ≤ field a) (tied : field a ≤ field b → a.id < b.id) : Falls field a b := by
  rcases split le with lt | same
  · exact .inl lt
  · exact .inr ⟨same.symm, tied (same ▸ le)⟩

/-- The order that a token asks for. -/
def Before (token : String) : RocketView → RocketView → Prop :=
  match token with
  | "created_at" => Rises createdAt
  | "-created_at" => Falls createdAt
  | "updated_at" => Rises updatedAt
  | "-updated_at" => Falls updatedAt
  | "launch_speed" => Rises speed
  | "-launch_speed" => Falls speed
  | _ => fun a b => a.id < b.id

end RocketView

theorem SortField.parse_other {name : String} (created : name ≠ "created_at")
    (updated : name ≠ "updated_at") (launched : name ≠ "launch_speed") :
    SortField.parse name = .identifier := by
  unfold SortField.parse
  rw [if_neg created, if_neg updated, if_neg launched]

theorem SortKey.Puts.before {token : String} {a b : Rocket}
    (puts : (SortKey.parse token).Puts a b) :
    RocketView.Before token a.view b.view := by
  rcases puts with ⟨le, tied⟩
  unfold RocketView.Before
  split
  · exact RocketView.rises_of_le Instant.lt_or_eq_of_le (of_decide_eq_true le)
      fun ge => tied (decide_eq_true ge)
  · exact RocketView.falls_of_le Instant.lt_or_eq_of_le (of_decide_eq_true le)
      fun ge => tied (decide_eq_true ge)
  · exact RocketView.rises_of_le Instant.lt_or_eq_of_le (of_decide_eq_true le)
      fun ge => tied (decide_eq_true ge)
  · exact RocketView.falls_of_le Instant.lt_or_eq_of_le (of_decide_eq_true le)
      fun ge => tied (decide_eq_true ge)
  · exact RocketView.rises_of_le Int.lt_or_eq_of_le (of_decide_eq_true le)
      fun ge => tied (decide_eq_true ge)
  · exact RocketView.falls_of_le Int.lt_or_eq_of_le (of_decide_eq_true le)
      fun ge => tied (decide_eq_true ge)
  · rename_i created createdDown updated updatedDown launched launchedDown
    have unread : (SortKey.parse token).field = .identifier := by
      unfold SortKey.parse
      split
      · rename_i name minus
        have spelled : token = "-" ++ String.ofList name := by
          apply String.toList_inj.mp
          rw [minus]
          simp
        apply SortField.parse_other
        · intro same
          rw [same] at spelled
          exact createdDown spelled
        · intro same
          rw [same] at spelled
          exact updatedDown spelled
        · intro same
          rw [same] at spelled
          exact launchedDown spelled
      · exact SortField.parse_other created updated launched
    apply tied
    unfold SortKey.le
    rw [unread]
    split <;> rfl

/-! ## Saved records -/

namespace Fleet

def ofSaves (saves : List Rocket) : Fleet :=
  saves.foldl (fun fleet r => (RocketStore.save r fleet).2) empty

/-- The record that was saved last under the text of an identifier. -/
def lastSaved (text : String) (saves : List Rocket) : Option Rocket :=
  saves.reverse.find? fun r => r.id.text = text

/-- The last of some saves under a text counts, or else what was there before them. -/
theorem recordAt_foldl_save (text : String) (saves : List Rocket) (fleet : Fleet) :
    (saves.foldl (fun fleet r => (RocketStore.save r fleet).2) fleet).recordAt text =
      (lastSaved text saves).or (fleet.recordAt text) := by
  induction saves generalizing fleet with
  | nil =>
      rfl
  | cons r rest ih =>
      have saved : (RocketStore.save r fleet).2.recordAt text =
          if text = r.id.text then some r else fleet.recordAt text := recordAt_save r fleet text
      unfold lastSaved
      rw [List.foldl_cons, ih, saved, List.reverse_cons, List.find?_append, Option.or_assoc]
      by_cases same : r.id.text = text
      · simp [lastSaved, same]
      · simp [lastSaved, same, Ne.symm same]

theorem recordAt_ofSaves (text : String) (saves : List Rocket) :
    (ofSaves saves).recordAt text = lastSaved text saves := by
  unfold ofSaves
  rw [recordAt_foldl_save]
  exact Option.or_none

theorem ofSaves_congr {saves others : List Rocket}
    (same : ∀ text, lastSaved text others = lastSaved text saves) :
    ofSaves others = ofSaves saves := by
  apply ext_recordAt
  intro text
  rw [recordAt_ofSaves, recordAt_ofSaves, same]

variable {fleet : Fleet} {r : Rocket}

theorem find_eq_ok_iff {id : RocketId} :
    fleet.find id = .ok r ↔ fleet.recordAt id.text = some r ∧ r.isDeleted = false := by
  constructor
  · intro found
    rw [← text_of_find found]
    exact recordAt_of_find found
  · rintro ⟨there, alive⟩
    unfold find
    rw [record?_eq_recordAt, there]
    simp [alive]

theorem find_eq_error_iff {id : RocketId} {cause : Refusal} :
    fleet.find id = .error cause ↔ cause = .notFound id.text ∧
      ¬∃ r, fleet.recordAt id.text = some r ∧ r.isDeleted = false := by
  cases there : fleet.find id with
  | ok r =>
      have live := find_eq_ok_iff.mp there
      constructor
      · intro failed
        cases failed
      · rintro ⟨_, dead⟩
        exact absurd ⟨r, live⟩ dead
  | error other =>
      rw [Except.error.injEq, cause_of_find there, eq_comm]
      refine (and_iff_left ?_).symm
      rintro ⟨r, live⟩
      rw [find_eq_ok_iff.mpr live] at there
      cases there

theorem mem_listing_iff {key : SortKey} : r ∈ fleet.listing key ↔ fleet.find r.id = .ok r := by
  rw [find_eq_ok_iff, ← mem_records_iff]
  unfold listing SortKey.sort live
  rw [List.mem_mergeSort, List.mem_filter, Bool.not_eq_true']

theorem pairwise_listing (fleet : Fleet) (key : SortKey) : (fleet.listing key).Pairwise key.Puts :=
  key.pairwise_sort (fleet.ordered.sublist List.filter_sublist)

theorem nodup_listing (fleet : Fleet) (key : SortKey) :
    ((fleet.listing key).map Rocket.view).Nodup := by
  have apart : (fleet.live.map Rocket.view).Nodup := by
    refine List.pairwise_map.mpr ((fleet.ordered.sublist List.filter_sublist).imp ?_)
    intro a b below same
    exact String.ne_of_lt below (congrArg RocketView.id same)
  exact ((List.mergeSort_perm fleet.live key.le).map Rocket.view).nodup_iff.mpr apart

end Fleet

/-! ## Questions -/

def Bus.answer {ο τ : Type} (type expected : String) (shape : ο → Option τ) :
    Except HandlerFault ο → Except BusFault τ
  | .error fault => .error (.ofHandler type fault)
  | .ok output =>
      match shape output with
      | some value => .ok value
      | none => .error (.wrongOutput type expected)

namespace World

variable {L C : Type} [LockStore L] [ClaimStore C]

theorem play_dispatchExpecting {ι ο τ R : Type} [RocketStore R] [Input ι] {bus : Bus ι ο}
    {input : ι} {handler : Handler ι ο} {w v : World L C R} {result : Except HandlerFault ο}
    (registered : bus.handler? (Input.type input) = some handler)
    (played : play (handler input) w = (.returned result, v)) (expected : String)
    (shape : ο → Option τ) :
    play (bus.dispatchExpecting expected shape input) w =
      (.returned (Bus.answer (Input.type input) expected shape result), v) := by
  have dispatched : play (bus.dispatch input) w =
      (.returned (result.mapError (.ofHandler (Input.type input))), v) := by
    unfold Bus.dispatch
    simp only [registered]
    rw [Script.bind_eq, play_bind, played]
    rfl
  unfold Bus.dispatchExpecting
  rw [Script.bind_eq, play_bind, dispatched]
  cases result with
  | error fault =>
      rfl
  | ok output =>
      unfold Bus.answer
      cases shaped : shape output with
      | none =>
          simp only [Except.mapError, shaped]
          rfl
      | some value =>
          simp only [Except.mapError, shaped]
          rfl

def found (text : String) (w : World L C Fleet) : Outcome (Except BusFault RocketView) :=
  (play (QueryBus.full.one (.byId text)) w).1

def listed (token : String) (w : World L C Fleet) : Outcome (Except BusFault (List RocketView)) :=
  (play (QueryBus.full.many (.search (.parse token))) w).1

theorem found_of_rejected {text : String} {violation : Violation}
    (rejected : RocketId.parse text = .error violation) (w : World L C Fleet) :
    found text w =
      .returned (.error (.handlerFailed RocketQuery.byIdType (.brokenRule violation))) := by
  have played : play (QueryHandler.finding.handle (.byId text)) w =
      (.returned (.error (.refused (.brokenRule violation))), w) := by
    simp only [QueryHandler.handle, rejected]
    rfl
  exact congrArg Prod.fst (play_dispatchExpecting rfl played "<type>" QueryAnswer.rocket?)

theorem found_of_parsed {text : String} {id : RocketId} (parsed : RocketId.parse text = .ok id)
    (w : World L C Fleet) :
    found text w = .returned (match w.rockets.find id with
      | .error cause => .error (.handlerFailed RocketQuery.byIdType cause)
      | .ok r => .ok r.view) := by
  have played : play (QueryHandler.finding.handle (.byId text)) w =
      (.returned (match w.rockets.find id with
        | .error cause => .error (.refused cause)
        | .ok r => .ok (.rocket r.view)), w) := by
    have looked : play (Script.perform (.findRocket id)) w =
        (.returned (w.rockets.find id), w) := rfl
    simp only [QueryHandler.handle, parsed]
    rw [Script.bind_eq, play_bind_of_returned looked]
    cases w.rockets.find id <;> rfl
  have answered : found text w = _ :=
    congrArg Prod.fst (play_dispatchExpecting rfl played "<type>" QueryAnswer.rocket?)
  rw [answered]
  cases w.rockets.find id <;> rfl

theorem listed_eq (token : String) (w : World L C Fleet) :
    listed token w = .returned (.ok ((w.rockets.listing (.parse token)).map Rocket.view)) :=
  rfl

theorem found_eq_ok_iff {text : String} {view : RocketView} {w : World L C Fleet} :
    found text w = .returned (.ok view) ↔ ∃ r, r.id.text = text ∧ r.view = view ∧
      w.rockets.find r.id = .ok r := by
  constructor
  · intro shown
    cases parsed : RocketId.parse text with
    | error violation =>
        rw [found_of_rejected parsed] at shown
        cases shown
    | ok id =>
        rw [found_of_parsed parsed] at shown
        cases there : w.rockets.find id with
        | error cause =>
            rw [there] at shown
            cases shown
        | ok r =>
            rw [there] at shown
            cases shown
            have same : r.id.text = id.text := Fleet.text_of_find there
            refine ⟨r, same.trans (RocketId.text_parse parsed), rfl, ?_⟩
            rw [RocketId.ext_iff.mpr same]
            exact there
  · rintro ⟨r, rfl, rfl, there⟩
    rw [found_of_parsed r.id.parse_text, there]

/-- A list shows each rocket that can be found, once, in the order of a token. -/
structure Lists (token : String) (w : World L C Fleet) (views : List RocketView) : Prop where
  once : views.Nodup
  shown : ∀ view, view ∈ views ↔ found view.id w = .returned (.ok view)
  ordered : views.Pairwise (RocketView.Before token)

theorem lists_listing (token : String) (w : World L C Fleet) :
    Lists token w ((w.rockets.listing (.parse token)).map Rocket.view) := by
  constructor
  · exact w.rockets.nodup_listing _
  · intro view
    rw [found_eq_ok_iff, List.mem_map]
    constructor
    · rintro ⟨r, listed, rfl⟩
      exact ⟨r, rfl, rfl, Fleet.mem_listing_iff.mp listed⟩
    · rintro ⟨r, _, same, there⟩
      exact ⟨r, Fleet.mem_listing_iff.mpr there, same⟩
  · refine List.pairwise_map.mpr ((w.rockets.pairwise_listing _).imp ?_)
    intro a b puts
    exact puts.before

/-- What asking for one rocket comes to, as the rockets were saved. -/
structure Finds (saves : List Rocket) (text : String)
    (answer : Outcome (Except BusFault RocketView)) : Prop where
  live : ∀ view, answer = .returned (.ok view) ↔
    ∃ r, Fleet.lastSaved text saves = some r ∧ r.isDeleted = false ∧ r.view = view
  rejected : ∀ violation, answer =
      .returned (.error (.handlerFailed RocketQuery.byIdType (.brokenRule violation))) ↔
    RocketId.parse text = .error violation
  missing : ∀ id, RocketId.parse text = .ok id → (answer =
      .returned (.error (.handlerFailed RocketQuery.byIdType (.notFound text))) ↔
    ¬∃ r, Fleet.lastSaved text saves = some r ∧ r.isDeleted = false)

theorem finds_found (saves : List Rocket) (text : String) (w : World L C Fleet) :
    Finds saves text (found text { w with rockets := .ofSaves saves }) := by
  constructor
  · intro view
    rw [found_eq_ok_iff, ← Fleet.recordAt_ofSaves]
    constructor
    · rintro ⟨r, rfl, same, there⟩
      rcases Fleet.find_eq_ok_iff.mp there with ⟨recorded, alive⟩
      exact ⟨r, recorded, alive, same⟩
    · rintro ⟨r, recorded, alive, same⟩
      have named : r.id.text = text := Fleet.text_of_recordAt recorded
      rw [← named] at recorded
      exact ⟨r, named, same, Fleet.find_eq_ok_iff.mpr ⟨recorded, alive⟩⟩
  · intro violation
    constructor
    · intro answered
      cases parsed : RocketId.parse text with
      | error other =>
          rw [found_of_rejected parsed] at answered
          cases answered
          rfl
      | ok id =>
          -- a store of rockets breaks no rule about them
          rw [found_of_parsed parsed] at answered
          cases there : (Fleet.ofSaves saves).find id with
          | error cause =>
              rw [there, Fleet.cause_of_find there] at answered
              cases answered
          | ok r =>
              rw [there] at answered
              cases answered
    · intro rejected
      exact found_of_rejected rejected _
  · intro id parsed
    have same : id.text = text := RocketId.text_parse parsed
    rw [found_of_parsed parsed, ← Fleet.recordAt_ofSaves, ← same]
    constructor
    · intro answered
      cases there : (Fleet.ofSaves saves).find id with
      | error cause =>
          exact (Fleet.find_eq_error_iff.mp there).2
      | ok r =>
          rw [there] at answered
          cases answered
    · intro dead
      rw [Fleet.find_eq_error_iff.mpr ⟨rfl, dead⟩]

/--
Whatever was saved, the list of rockets and the single ones agree, the list is in order, and
nothing but the record saved last under each identifier counts.
-/
theorem listed_as_found (saves : List Rocket) (w : World L C Fleet) :
    (∀ token, ∃ views, listed token { w with rockets := .ofSaves saves } = .returned (.ok views) ∧
        Lists token { w with rockets := .ofSaves saves } views) ∧
      (∀ others, (∀ text, Fleet.lastSaved text others = Fleet.lastSaved text saves) → ∀ token,
        listed token { w with rockets := .ofSaves others } =
          listed token { w with rockets := .ofSaves saves }) ∧
      ∀ text, Finds saves text (found text { w with rockets := .ofSaves saves }) := by
  refine ⟨fun token => ⟨_, listed_eq token _, lists_listing token _⟩, ?_,
    fun text => finds_found saves text w⟩
  intro others same token
  rw [Fleet.ofSaves_congr same]

end World

end MissionControl
