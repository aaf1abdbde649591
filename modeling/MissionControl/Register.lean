/-!
# Registers

Entries under names, one for each name.  What a register holds is told by `get?`; every operation
is described by what it does to that view.  That no name has two entries is part of the type.
-/

namespace MissionControl

/-- Entries under names, the latest first. -/
structure Register (α : Type) where
  entries : List (String × α) := []
  /-- Each name has one entry at most. -/
  single : (entries.map (·.1)).Nodup := by exact List.nodup_nil
  deriving Repr, DecidableEq

namespace Register

variable {α : Type}

instance : Inhabited (Register α) :=
  ⟨{}⟩

theorem single_filter {entries : List (String × α)} (h : (entries.map (·.1)).Nodup)
    (test : String × α → Bool) : ((entries.filter test).map (·.1)).Nodup :=
  h.sublist (List.filter_sublist.map _)

def get? (name : String) (register : Register α) : Option α :=
  register.entries.lookup name

def keep (test : α → Bool) (register : Register α) : Register α :=
  ⟨register.entries.filter fun entry => test entry.2, single_filter register.single _⟩

def erase (name : String) (register : Register α) : Register α :=
  ⟨register.entries.filter fun entry => entry.1 ≠ name, single_filter register.single _⟩

theorem single_cons_erase (name : String) (value : α) (register : Register α) :
    (((name, value) :: (register.erase name).entries).map (·.1)).Nodup := by
  refine List.nodup_cons.mpr ⟨fun mem => ?_, (register.erase name).single⟩
  obtain ⟨entry, mem, same⟩ := List.mem_map.mp mem
  have distinct := (List.mem_filter.mp mem).2
  simp [same] at distinct

def put (name : String) (value : α) (register : Register α) : Register α :=
  ⟨(name, value) :: (register.erase name).entries, single_cons_erase name value register⟩

def names (register : Register α) : List String :=
  register.entries.map (·.1)

theorem lookup_cons (entry : String × α) (rest : List (String × α)) (name : String) :
    (entry :: rest).lookup name = if name = entry.1 then some entry.2 else rest.lookup name := by
  rw [List.lookup_cons]
  by_cases h : name = entry.1
  · simp [h]
  · simp [h, beq_eq_false_iff_ne.mpr h]

@[simp]
theorem get?_erase (name other : String) (register : Register α) :
    (register.erase name).get? other = if other = name then none else register.get? other := by
  simp only [get?, erase]
  induction register.entries with
  | nil =>
      simp
  | cons entry rest ih =>
      by_cases hkey : entry.1 = name
      · rw [List.filter_cons_of_neg (by simp [hkey]), ih, lookup_cons, hkey]
        by_cases hother : other = name <;> simp [hother]
      · rw [List.filter_cons_of_pos (by simp [hkey]), lookup_cons, lookup_cons, ih]
        by_cases hother : other = name
        · subst hother
          simp [Ne.symm hkey]
        · simp [hother]

@[simp]
theorem get?_put (name other : String) (value : α) (register : Register α) :
    (register.put name value).get? other =
      if other = name then some value else register.get? other := by
  have h := get?_erase name other register
  unfold get? at h
  unfold get? put
  rw [lookup_cons, h]
  by_cases hother : other = name <;> simp [hother]

@[simp]
theorem get?_keep (test : α → Bool) (name : String) (register : Register α) :
    (register.keep test).get? name = (register.get? name).filter test := by
  obtain ⟨entries, single⟩ := register
  simp only [get?, keep]
  induction entries with
  | nil =>
      rfl
  | cons entry rest ih =>
      obtain ⟨fresh, later⟩ := List.nodup_cons.mp single
      rw [List.filter_cons, lookup_cons]
      by_cases hname : name = entry.1
      · subst hname
        have absent : (rest.filter fun entry => test entry.2).lookup entry.1 = none := by
          rw [List.lookup_eq_none_iff]
          intro other mem
          have apart : entry.1 ≠ other.1 := fun same =>
            fresh (List.mem_map.mpr ⟨other, (List.mem_filter.mp mem).1, same.symm⟩)
          simpa using apart
        by_cases htest : test entry.2 <;>
          simp [htest, absent, lookup_cons, Option.filter]
      · by_cases htest : test entry.2
        · simp [htest, lookup_cons, hname, ih later]
        · simp [htest, hname, ih later]

end Register

end MissionControl
