import Mathlib.Data.List.Sort
import MissionControl.Fleet

/-!
# Records by their text

A fleet as a table: the text of an identifier leads to at most one record.  Saving a record changes
the table at its own text only, and a fleet is told by its table.
-/

namespace MissionControl
namespace Fleet

def recordAt (text : String) (fleet : Fleet) : Option Rocket :=
  fleet.records.find? fun r => r.id.text = text

theorem record?_eq_recordAt (id : RocketId) (fleet : Fleet) :
    fleet.record? id = fleet.recordAt id.text := by
  simp only [record?, recordAt, RocketId.ext_iff]

theorem isKnown_eq_isSome (id : RocketId) (fleet : Fleet) :
    fleet.isKnown id = (fleet.recordAt id.text).isSome := by
  rw [isKnown, record?_eq_recordAt]

theorem find?_place (r : Rocket) (records : List Rocket) (text : String) :
    (place r records).find? (fun s => s.id.text = text) =
      if text = r.id.text then some r else records.find? fun s => s.id.text = text := by
  induction records with
  | nil =>
      by_cases h : text = r.id.text
      · simp [place, h]
      · simp [place, h, Ne.symm h]
  | cons s rest ih =>
      unfold place
      split
      · by_cases h : text = r.id.text
        · simp [h]
        · simp [h, Ne.symm h]
      · split
        · rename_i above
          by_cases same : s.id.text = text
          · have apart : text ≠ r.id.text := by
              rw [← same]
              exact String.ne_of_lt above
            rw [List.find?_cons_of_pos (by simpa using same), if_neg apart,
              List.find?_cons_of_pos (by simpa using same)]
          · rw [List.find?_cons_of_neg (by simpa using same), ih,
              List.find?_cons_of_neg (by simpa using same)]
        · rename_i notBelow notAbove
          have same : s.id.text = r.id.text :=
            String.le_antisymm (String.not_lt.mp notBelow) (String.not_lt.mp notAbove)
          by_cases h : text = r.id.text
          · simp [h]
          · simp [h, same, Ne.symm h]

@[simp]
theorem recordAt_save (r : Rocket) (fleet : Fleet) (text : String) :
    (fleet.save r).recordAt text = if text = r.id.text then some r else fleet.recordAt text :=
  find?_place r fleet.records text

theorem text_of_recordAt {fleet : Fleet} {text : String} {r : Rocket}
    (h : fleet.recordAt text = some r) : r.id.text = text := by
  simpa using List.find?_some h

theorem text_of_find {fleet : Fleet} {id : RocketId} {r : Rocket} (h : fleet.find id = .ok r) :
    r.id.text = id.text := by
  unfold find at h
  rw [record?_eq_recordAt] at h
  cases found : fleet.recordAt id.text with
  | none =>
      rw [found] at h
      cases h
  | some s =>
      rw [found] at h
      dsimp only at h
      split at h
      · cases h
      · cases h
        exact text_of_recordAt found

theorem cause_of_find {fleet : Fleet} {id : RocketId} {cause : Refusal}
    (h : fleet.find id = .error cause) : cause = .notFound id.text := by
  unfold find at h
  split at h
  · split at h
    · cases h
      rfl
    · cases h
  · cases h
    rfl

theorem find?_of_mem {records : List Rocket} {r : Rocket}
    (ordered : records.Pairwise fun a b => a.id.text < b.id.text) (mem : r ∈ records) :
    records.find? (fun s => s.id.text = r.id.text) = some r := by
  induction records with
  | nil =>
      cases mem
  | cons s rest ih =>
      rcases List.pairwise_cons.mp ordered with ⟨first, later⟩
      rcases List.mem_cons.mp mem with same | mem
      · rw [same]
        exact List.find?_cons_of_pos (by simp)
      · have apart : s.id.text ≠ r.id.text := String.ne_of_lt (first r mem)
        rw [List.find?_cons_of_neg (by simpa using apart)]
        exact ih later mem

theorem mem_records_iff {fleet : Fleet} {r : Rocket} :
    r ∈ fleet.records ↔ fleet.recordAt r.id.text = some r :=
  ⟨find?_of_mem fleet.ordered, List.mem_of_find?_eq_some⟩

theorem ext_recordAt {a b : Fleet} (h : ∀ text, a.recordAt text = b.recordAt text) : a = b := by
  have : Std.Antisymm fun x y : Rocket => x.id.text < y.id.text :=
    ⟨fun x y below above => absurd below (String.lt_asymm above)⟩
  have : Std.Irrefl fun x y : Rocket => x.id.text < y.id.text :=
    ⟨fun x => String.lt_irrefl x.id.text⟩
  have same : a.records = b.records := by
    refine a.ordered.eq_of_mem_iff b.ordered fun r => ?_
    rw [mem_records_iff, mem_records_iff, h]
  cases a
  cases b
  cases same
  rfl

end Fleet
end MissionControl
