import MissionControl.Uuid

/-!
# Spellings of UUIDs

The texts that are accepted as a UUID, each by the form that it is written in.  Only the form with
the scheme has colons, and all of them are in the scheme.  The form and the UUID tell the text up to
the case of its letters.
-/

namespace MissionControl
namespace Uuid

/-! ## Digits and groups -/

theorem isSome_hexDigit?_of_foldlM {digits : List Char} {start value : Nat}
    (h : digits.foldlM (fun value c => (hexDigit? c).map (16 * value + ·)) start = some value) :
    ∀ c ∈ digits, (hexDigit? c).isSome := by
  induction digits generalizing start with
  | nil =>
      intro c mem
      cases mem
  | cons first rest ih =>
      rw [List.foldlM_cons] at h
      cases digit : hexDigit? first with
      | none =>
          rw [digit] at h
          cases h
      | some n =>
          rw [digit] at h
          intro c mem
          rcases List.mem_cons.mp mem with rfl | later
          · rw [digit]
            rfl
          · exact ih h c later

theorem isSome_hexDigit?_of_ofDigits? {digits : List Char} {value : Nat}
    (h : ofDigits? digits = some value) : ∀ c ∈ digits, (hexDigit? c).isSome :=
  isSome_hexDigit?_of_foldlM h

theorem exists_of_groups? {size next : Nat} {sizes : List Nat} {text digits : List Char}
    (h : groups? (size :: next :: sizes) text = some digits) :
    ∃ group rest others, group.length = size ∧ text = group ++ '-' :: rest ∧
      groups? (next :: sizes) rest = some others ∧ digits = group ++ others := by
  rw [groups?] at h
  · split at h
    · rename_i rest dropped
      rcases Option.map_eq_some_iff.mp h with ⟨others, grouped, same⟩
      have long : size < text.length := by
        have length := congrArg List.length dropped
        rw [List.length_drop, List.length_cons] at length
        omega
      refine ⟨text.take size, rest, others, ?_, ?_, grouped, same.symm⟩
      · rw [List.length_take, Nat.min_eq_left (Nat.le_of_lt long)]
      · rw [← dropped, List.take_append_drop]
    · cases h
  · intro same
    cases same

theorem eq_of_groups?_singleton {size : Nat} {text digits : List Char}
    (h : groups? [size] text = some digits) : text.length = size ∧ digits = text := by
  rw [groups?] at h
  split at h
  · rename_i length
    cases h
    exact ⟨length, rfl⟩
  · cases h

theorem mem_of_groups? {size : Nat} {sizes : List Nat} {text digits : List Char}
    (h : groups? (size :: sizes) text = some digits) {c : Char} (mem : c ∈ text) :
    c = '-' ∨ c ∈ digits := by
  induction sizes generalizing size text digits with
  | nil =>
      rw [(eq_of_groups?_singleton h).2]
      exact .inr mem
  | cons next sizes ih =>
      rcases exists_of_groups? h with ⟨group, rest, others, _, rfl, grouped, rfl⟩
      rcases List.mem_append.mp mem with first | later
      · exact .inr (List.mem_append_left others first)
      · rcases List.mem_cons.mp later with hyphen | later
        · exact .inl hyphen
        · exact (ih grouped later).imp_right (List.mem_append_right group)

theorem notMem_of_hyphenated? {text : List Char} {uuid : Uuid} (h : hyphenated? text = some uuid) :
    ':' ∉ text := by
  intro mem
  rcases Option.bind_eq_some_iff.mp h with ⟨digits, grouped, h⟩
  rcases Option.bind_eq_some_iff.mp h with ⟨value, read, _⟩
  rcases mem_of_groups? grouped mem with hyphen | digit
  · cases hyphen
  · have accepted := isSome_hexDigit?_of_ofDigits? read ':' digit
    cases accepted

/-! ## Forms -/

inductive Form where
  | plain
  | hyphenated
  | braced
  | schemed

def Form.length : Form → Nat
  | plain => 32
  | hyphenated => 36
  | braced => 38
  | schemed => 45

theorem Form.length_inj {form other : Form} (same : form.length = other.length) : form = other := by
  cases form <;> cases other <;> first | rfl | cases same

/-- A text that writes a UUID in a form. -/
inductive Spelled (uuid : Uuid) : Form → List Char → Prop where
  | plain {text : List Char} : text.length = 32 → ofDigits? text = some uuid.value →
      Spelled uuid .plain text
  | hyphenated {text : List Char} : hyphenated? text = some uuid → Spelled uuid .hyphenated text
  | braced {inner : List Char} : hyphenated? inner = some uuid →
      Spelled uuid .braced ('\x7b' :: (inner ++ ['\x7d']))
  | schemed {head inner : List Char} : head.map Char.toLower = scheme →
      hyphenated? inner = some uuid → Spelled uuid .schemed (head ++ inner)

theorem eq_of_inBraces? {text inner : List Char} (h : inBraces? text = some inner) :
    text = '\x7b' :: (inner ++ ['\x7d']) := by
  unfold inBraces? at h
  split at h
  · rename_i rest
    split at h
    · rename_i closed
      cases h
      rcases List.getLast?_eq_some_iff.mp closed with ⟨inner, rfl⟩
      rw [List.dropLast_concat]
    · cases h
  · cases h

theorem exists_of_afterScheme? {text inner : List Char} (h : afterScheme? text = some inner) :
    ∃ head, head.map Char.toLower = scheme ∧ text = head ++ inner := by
  unfold afterScheme? at h
  split at h
  · rename_i introduced
    cases h
    exact ⟨_, introduced, (List.take_append_drop scheme.length text).symm⟩
  · cases h

theorem spelled_of_read? {text : List Char} {uuid : Uuid} (h : read? text = some uuid) :
    ∃ form : Form, text.length = form.length ∧ Spelled uuid form text := by
  unfold read? at h
  split at h
  · rename_i length
    rcases Option.map_eq_some_iff.mp h with ⟨value, read, rfl⟩
    exact ⟨.plain, length, .plain length read⟩
  · split at h
    · rename_i length
      exact ⟨.hyphenated, length, .hyphenated h⟩
    · split at h
      · rename_i length
        rcases Option.bind_eq_some_iff.mp h with ⟨inner, inBraces, written⟩
        rw [eq_of_inBraces? inBraces] at length ⊢
        exact ⟨.braced, length, .braced written⟩
      · split at h
        · rename_i length
          rcases Option.bind_eq_some_iff.mp h with ⟨inner, introduced, written⟩
          rcases exists_of_afterScheme? introduced with ⟨head, lowered, rfl⟩
          exact ⟨.schemed, length, .schemed lowered written⟩
        · cases h

theorem read?_of_parse {text : String} {uuid : Uuid} (h : parse text = .ok uuid) :
    read? text.toList = some uuid := by
  unfold parse at h
  split at h
  · rename_i read
    cases h
    exact read
  · cases h

/-! ## Colons -/

theorem eq_colon_of_toLower {c : Char} (h : c.toLower = ':') : c = ':' := by
  unfold Char.toLower at h
  split at h
  · rename_i upper
    -- an upper-case letter goes up from 65 by 32, and so past the colon at 58
    have code : (c.val + ('a'.val - 'A'.val)).toNat = ':'.val.toNat :=
      congrArg (fun lowered : Char => lowered.val.toNat) h
    have first : 'A'.val.toNat ≤ c.val.toNat := UInt32.le_iff_toNat_le.mp upper.1
    have last : c.val.toNat ≤ 'Z'.val.toNat := UInt32.le_iff_toNat_le.mp upper.2
    rw [UInt32.toNat_add] at code
    simp only [Char.reduceVal, UInt32.reduceSub, UInt32.reduceToNat] at code first last
    omega
  · exact h

inductive Coloned : List Char → Prop where
  | never {text : List Char} : ':' ∉ text → Coloned text
  | schemed {head rest : List Char} : head.map Char.toLower = "urn:uuid".toList → ':' ∉ rest →
      Coloned (head ++ ':' :: rest)

theorem Spelled.coloned {form : Form} {text : List Char} {uuid : Uuid}
    (h : Spelled uuid form text) : Coloned text := by
  cases h with
  | plain length read =>
      refine .never fun mem => ?_
      have accepted := isSome_hexDigit?_of_ofDigits? read ':' mem
      cases accepted
  | hyphenated written =>
      exact .never (notMem_of_hyphenated? written)
  | @braced inner written =>
      refine .never fun mem => ?_
      rcases List.mem_cons.mp mem with opening | mem
      · cases opening
      · rcases List.mem_append.mp mem with inside | closing
        · exact notMem_of_hyphenated? written inside
        · rw [List.mem_singleton] at closing
          cases closing
  | @schemed head inner introduced written =>
      have split : scheme = "urn:uuid".toList ++ [':'] := rfl
      rw [split] at introduced
      rcases List.map_eq_append_iff.mp introduced with ⟨front, last, rfl, lower, colon⟩
      rcases List.map_eq_singleton_iff.mp colon with ⟨c, rfl, lowered⟩
      rw [eq_colon_of_toLower lowered, List.append_assoc]
      exact .schemed lower (notMem_of_hyphenated? written)

/-! ## Case -/

theorem toNat_lt_of_hexDigit? {c : Char} {n : Nat} (h : hexDigit? c = some n) : c.toNat < 128 := by
  have bound : ∀ {last : Char}, last.toNat < 128 → c ≤ last → c.toNat < 128 := by
    intro last small below
    exact Nat.lt_of_le_of_lt (UInt32.le_iff_toNat_le.mp below) small
  unfold hexDigit? at h
  split at h
  · rename_i digit
    exact bound (by decide) digit.2
  · split at h
    · rename_i lower
      exact bound (by decide) lower.2
    · split at h
      · rename_i upper
        exact bound (by decide) upper.2
      · cases h

theorem digitChar_of_ascii : ∀ code < 128, ∀ n, hexDigit? (Char.ofNat code) = some n →
    n < 16 ∧ (Char.ofNat code).toLower = Nat.digitChar n := by
  decide +kernel

theorem toLower_of_hexDigit? {c : Char} {n : Nat} (h : hexDigit? c = some n) :
    n < 16 ∧ c.toLower = Nat.digitChar n := by
  rw [← Char.ofNat_toNat c] at h ⊢
  exact digitChar_of_ascii c.toNat (toNat_lt_of_hexDigit? (by rwa [Char.ofNat_toNat] at h)) n h

theorem lowered_of_foldlM {digits other : List Char} {start start' value : Nat}
    (long : digits.length = other.length)
    (h : digits.foldlM (fun value c => (hexDigit? c).map (16 * value + ·)) start = some value)
    (h' : other.foldlM (fun value c => (hexDigit? c).map (16 * value + ·)) start' = some value) :
    start = start' ∧ digits.map Char.toLower = other.map Char.toLower := by
  induction digits generalizing other start start' with
  | nil =>
      rw [List.length_eq_zero_iff.mp long.symm] at h' ⊢
      cases h
      cases h'
      exact ⟨rfl, rfl⟩
  | cons first rest ih =>
      cases other with
      | nil =>
          cases long
      | cons first' rest' =>
          rw [List.foldlM_cons] at h h'
          rcases Option.bind_eq_some_iff.mp h with ⟨next, read, h⟩
          rcases Option.bind_eq_some_iff.mp h' with ⟨next', read', h'⟩
          rcases Option.map_eq_some_iff.mp read with ⟨n, digit, rfl⟩
          rcases Option.map_eq_some_iff.mp read' with ⟨n', digit', rfl⟩
          rcases ih (Nat.succ.inj long) h h' with ⟨values, later⟩
          rcases toLower_of_hexDigit? digit with ⟨small, lowered⟩
          rcases toLower_of_hexDigit? digit' with ⟨small', lowered'⟩
          -- by induction the values after the first digit agree, and their remainder tells it
          have same : n = n' := by omega
          refine ⟨by omega, ?_⟩
          rw [List.map_cons, List.map_cons, lowered, lowered', same, later]

theorem length_eq_of_groups? {size : Nat} {sizes : List Nat}
    {text other digits digits' : List Char} (h : groups? (size :: sizes) text = some digits)
    (h' : groups? (size :: sizes) other = some digits') : digits.length = digits'.length := by
  induction sizes generalizing size text other digits digits' with
  | nil =>
      rcases eq_of_groups?_singleton h with ⟨length, rfl⟩
      rcases eq_of_groups?_singleton h' with ⟨length', rfl⟩
      rw [length, length']
  | cons next sizes ih =>
      rcases exists_of_groups? h with ⟨group, rest, others, length, rfl, grouped, rfl⟩
      rcases exists_of_groups? h' with ⟨group', rest', others', length', rfl, grouped', rfl⟩
      rw [List.length_append, List.length_append, length, length', ih grouped grouped']

theorem lowered_of_groups? {size : Nat} {sizes : List Nat} {text other digits digits' : List Char}
    (h : groups? (size :: sizes) text = some digits)
    (h' : groups? (size :: sizes) other = some digits')
    (lowered : digits.map Char.toLower = digits'.map Char.toLower) :
    text.map Char.toLower = other.map Char.toLower := by
  induction sizes generalizing size text other digits digits' with
  | nil =>
      rw [← (eq_of_groups?_singleton h).2, ← (eq_of_groups?_singleton h').2]
      exact lowered
  | cons next sizes ih =>
      rcases exists_of_groups? h with ⟨group, rest, others, length, rfl, grouped, rfl⟩
      rcases exists_of_groups? h' with ⟨group', rest', others', length', rfl, grouped', rfl⟩
      rw [List.map_append, List.map_append] at lowered
      have long : (group.map Char.toLower).length = (group'.map Char.toLower).length := by
        rw [List.length_map, List.length_map, length, length']
      rcases List.append_inj lowered long with ⟨first, later⟩
      rw [List.map_append, List.map_append, List.map_cons, List.map_cons, first,
        ih grouped grouped' later]

theorem lowered_of_hyphenated? {text other : List Char} {uuid : Uuid}
    (h : hyphenated? text = some uuid) (h' : hyphenated? other = some uuid) :
    text.map Char.toLower = other.map Char.toLower := by
  rcases Option.bind_eq_some_iff.mp h with ⟨digits, grouped, h⟩
  rcases Option.bind_eq_some_iff.mp h' with ⟨digits', grouped', h'⟩
  rcases Option.bind_eq_some_iff.mp h with ⟨value, read, same⟩
  rcases Option.bind_eq_some_iff.mp h' with ⟨value', read', same'⟩
  cases same
  cases same'
  have long := length_eq_of_groups? grouped grouped'
  exact lowered_of_groups? grouped grouped' (lowered_of_foldlM long read read').2

/-- Spellings of one UUID in one form differ in the case of letters only. -/
theorem lowered_of_read? {text other : List Char} {uuid : Uuid} (h : read? text = some uuid)
    (h' : read? other = some uuid) (long : text.length = other.length) :
    text.map Char.toLower = other.map Char.toLower := by
  rcases spelled_of_read? h with ⟨form, length, spelled⟩
  rcases spelled_of_read? h' with ⟨form', length', spelled'⟩
  have same : form = form' := Form.length_inj (length.symm.trans (long.trans length'))
  subst same
  cases spelled with
  | plain _ read =>
      cases spelled' with
      | plain _ read' =>
          exact (lowered_of_foldlM long read read').2
  | hyphenated written =>
      cases spelled' with
      | hyphenated written' =>
          exact lowered_of_hyphenated? written written'
  | braced written =>
      cases spelled' with
      | braced written' =>
          rw [List.map_cons, List.map_cons, List.map_append, List.map_append,
            lowered_of_hyphenated? written written']
  | schemed introduced written =>
      cases spelled' with
      | schemed introduced' written' =>
          rw [List.map_append, List.map_append, introduced, introduced',
            lowered_of_hyphenated? written written']

end Uuid
end MissionControl
