import MissionControl.Rocket.Store

/-!
# The fleet

A store of rockets in memory.  Records are kept in the order of their identifiers, one for each.
-/

namespace MissionControl

/-- The records of all rockets ever launched. -/
structure Fleet where
  records : List Rocket
  ordered : records.Pairwise fun a b => a.id.text < b.id.text
  deriving DecidableEq

namespace Fleet

def empty : Fleet := ⟨[], .nil⟩

instance : Inhabited Fleet :=
  ⟨empty⟩

/-! ## Records -/

def place (r : Rocket) : List Rocket → List Rocket
  | [] => [r]
  | s :: rest =>
      if r.id.text < s.id.text then
        r :: s :: rest
      else if s.id.text < r.id.text then
        s :: place r rest
      else
        r :: rest

theorem mem_place {r x : Rocket} {records : List Rocket} (h : x ∈ place r records) :
    x = r ∨ x ∈ records := by
  induction records with
  | nil =>
      simpa [place] using h
  | cons s rest ih =>
      unfold place at h
      split at h
      · simpa using h
      · split at h
        · rcases List.mem_cons.mp h with h | h
          · simp [h]
          · rcases ih h with h | h <;> simp [h]
        · rcases List.mem_cons.mp h with h | h <;> simp [h]

theorem ordered_place {r : Rocket} {records : List Rocket}
    (h : records.Pairwise fun a b => a.id.text < b.id.text) :
    (place r records).Pairwise fun a b => a.id.text < b.id.text := by
  induction records with
  | nil =>
      exact List.pairwise_singleton _ r
  | cons s rest ih =>
      obtain ⟨first, later⟩ := List.pairwise_cons.mp h
      unfold place
      split
      · rename_i below
        refine List.pairwise_cons.mpr ⟨fun x mem => ?_, h⟩
        rcases List.mem_cons.mp mem with rfl | mem
        · exact below
        · exact String.lt_trans below (first x mem)
      · split
        · rename_i above
          refine List.pairwise_cons.mpr ⟨fun x mem => ?_, ih later⟩
          rcases mem_place mem with rfl | mem
          · exact above
          · exact first x mem
        · rename_i notBelow notAbove
          have same : s.id.text = r.id.text :=
            String.le_antisymm (String.not_lt.mp notBelow) (String.not_lt.mp notAbove)
          exact List.pairwise_cons.mpr ⟨fun x mem => same ▸ first x mem, later⟩

def record? (id : RocketId) (fleet : Fleet) : Option Rocket :=
  fleet.records.find? (·.id = id)

def save (r : Rocket) (fleet : Fleet) : Fleet :=
  ⟨place r fleet.records, ordered_place fleet.ordered⟩

def live (fleet : Fleet) : List Rocket :=
  fleet.records.filter fun r => !r.isDeleted

/-! ## Calls -/

/-- The live rocket under an identifier. -/
def find (id : RocketId) (fleet : Fleet) : Except Refusal Rocket :=
  match fleet.record? id with
  | some r => if r.isDeleted then .error (.notFound id.text) else .ok r
  | none => .error (.notFound id.text)

/-- Whether the identifier was ever launched. -/
def isKnown (id : RocketId) (fleet : Fleet) : Bool :=
  (fleet.record? id).isSome

/-- The live rockets in the order of a key, and of their identifiers where it leaves them equal. -/
def listing (key : SortKey) (fleet : Fleet) : List Rocket :=
  key.sort fleet.live

instance : RocketStore Fleet where
  find := find
  isKnown id fleet := .ok (fleet.isKnown id)
  listing key fleet := .ok (fleet.listing key)
  save r fleet := (.returned (.ok ()), fleet.save r)

end Fleet

end MissionControl
