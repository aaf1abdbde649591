import Mathlib.Algebra.Group.Nat.Defs
import MissionControl.Proofs.Checked
import MissionControl.Proofs.Time.Calendar
import MissionControl.Time.Rfc3339

/-!
# Times as they are written

A time of the years 0 to 9999 is read back from its text to the nanosecond, leap seconds included;
the text of any other time is refused for the sign that it starts with.  What is read is always a
time of the calendar: only the last second of a minute may be a leap second.
-/

namespace MissionControl
namespace Time
namespace Rfc3339

/-! ## Digits -/

theorem digit?_of_isDigit {c : Char} (digit : c.isDigit = true) :
    digit? c = some (c.toNat - '0'.toNat) := by
  unfold digit?
  rw [if_pos]
  simpa [Char.isDigit, Char.le_def] using digit

theorem digits_append {written : Input} (plain : ∀ c ∈ written, c.isDigit = true) (value : Nat)
    (rest : Input) :
    digits written.length value (written ++ rest) =
      .ok (Nat.ofDigitChars 10 written value, rest) := by
  induction written generalizing value with
  | nil =>
      rfl
  | cons c others ih =>
      rcases List.forall_mem_cons.mp plain with ⟨first, plain⟩
      rw [List.length_cons, List.cons_append, digits, digit?_of_isDigit first]
      dsimp only
      rw [ih plain, Nat.ofDigitChars_cons]

theorem isDigit_of_mem_padded (width value : Nat) : ∀ c ∈ padded width value, c.isDigit = true := by
  intro c mem
  rcases List.mem_append.mp mem with zero | digit
  · rw [List.eq_of_mem_replicate zero]
    rfl
  · exact Nat.isDigit_of_mem_toDigits (by decide) (by decide) digit

theorem length_padded {width value : Nat} (some : 0 < width) (fits : value < 10 ^ width) :
    (padded width value).length = width := by
  have short := (Nat.length_toDigits_le_iff (by decide) some).mpr fits
  unfold padded
  rw [List.length_append, List.length_replicate]
  omega

theorem ofDigitChars_padded (width value : Nat) :
    Nat.ofDigitChars 10 (padded width value) 0 = value := by
  unfold padded
  rw [Nat.ofDigitChars_append, Nat.ofDigitChars_replicate_zero, Nat.mul_zero,
    Nat.ofDigitChars_ten_toDigits]

theorem digits_padded {width value : Nat} (some : 0 < width) (fits : value < 10 ^ width)
    (rest : Input) : digits width 0 (padded width value ++ rest) = .ok (value, rest) := by
  have read := digits_append (isDigit_of_mem_padded width value) 0 rest
  rwa [length_padded some fits, ofDigitChars_padded] at read

/-! ## Fractions -/

theorem fractionValue_of_isDigit {written : Input} (plain : ∀ c ∈ written, c.isDigit = true)
    {places : Nat} (fits : written.length ≤ places) :
    fractionValue places (written.filterMap digit?) =
      Nat.ofDigitChars 10 written 0 * 10 ^ (places - written.length) := by
  induction written generalizing places with
  | nil =>
      cases places <;> simp [fractionValue, Nat.ofDigitChars]
  | cons c others ih =>
      rcases List.forall_mem_cons.mp plain with ⟨first, plain⟩
      cases places with
      | zero =>
          cases fits
      | succ places =>
          have shorter : others.length ≤ places := Nat.le_of_succ_le_succ fits
          have power : 10 ^ places = 10 ^ others.length * 10 ^ (places - others.length) := by
            rw [← Nat.pow_add]
            congr 1
            omega
          have whole : Nat.ofDigitChars 10 (c :: others) 0 =
              10 ^ others.length * (c.toNat - '0'.toNat) + Nat.ofDigitChars 10 others 0 := by
            rw [Nat.ofDigitChars_cons, Nat.mul_zero, Nat.zero_add]
            exact Nat.ofDigitChars_eq_ofDigitChars_zero
          rw [List.filterMap_cons_some (digit?_of_isDigit first), fractionValue, ih plain shorter,
            whole, List.length_cons, Nat.add_sub_add_right, Nat.pow_eq, power, Nat.add_mul,
            Nat.mul_left_comm, Nat.mul_assoc]

theorem fraction_padded {width value : Nat} (some : 0 < width) (few : width ≤ 9)
    (fits : value < 10 ^ width) {c : Char} (mark : digit? c = none) (rest : Input) :
    fraction ('.' :: padded width value ++ c :: rest) =
      .ok (value * 10 ^ (9 - width), c :: rest) := by
  have plain : ∀ d ∈ padded width value, (digit? d).isSome = true := by
    intro d mem
    rw [digit?_of_isDigit (isDigit_of_mem_padded width value d mem)]
    rfl
  have taken : (padded width value ++ c :: rest).takeWhile (fun d => (digit? d).isSome) =
      padded width value := by
    rw [List.takeWhile_append_of_pos plain, List.takeWhile_cons_of_neg (by simp [mark]),
      List.append_nil]
  have length := length_padded some fits
  have filled : (padded width value).isEmpty = false := by
    cases digits : padded width value with
    | nil =>
        rw [digits] at length
        subst length
        cases some
    | cons d others =>
        rfl
  have told := fractionValue_of_isDigit (isDigit_of_mem_padded width value)
    (Nat.le_trans (Nat.le_of_eq length) few)
  rw [ofDigitChars_padded, length] at told
  have unfinished : (padded width value ++ c :: rest).isEmpty = false := by
    simp
  rw [List.cons_append, fraction, taken, unfinished, filled, told, List.drop_left]
  rfl

theorem fraction_fractionText {nanosecond : Nat} (small : nanosecond < 10 ^ 9) {c : Char}
    (mark : digit? c = none) (other : c ≠ '.') (rest : Input) :
    fraction (fractionText nanosecond ++ c :: rest) = .ok (nanosecond, c :: rest) := by
  unfold fractionText
  split
  · rename_i zero
    rw [zero, List.nil_append, fraction]
    intro _ same
    exact absurd (List.cons.inj same).1 other
  · split
    · rename_i exact
      rw [fraction_padded (by decide) (by decide) (by omega) mark]
      congr 2
      omega
    · split
      · rename_i exact
        rw [fraction_padded (by decide) (by decide) (by omega) mark]
        congr 2
        omega
      · rw [fraction_padded (by decide) (by decide) small mark]
        congr 2
        omega

/-! ## Dates and clock faces -/

theorem oneOf_cons {expected : List Char} {c : Char} (mem : c ∈ expected) (rest : Input) :
    oneOf expected (c :: rest) = .ok rest :=
  if_pos mem

theorem date_written {d : Date} (valid : d.isValid = true) (first : 0 ≤ d.year)
    (last : d.year ≤ 9999) (months : d.month ≤ 12) (days : d.day ≤ 31) (rest : Input) :
    date (yearText d.year ++ '-' :: (padded 2 d.month ++ '-' :: (padded 2 d.day ++ rest))) =
      .ok (d, rest) := by
  have year : (d.year.toNat : Int) = d.year := Int.toNat_of_nonneg first
  unfold date yearText
  rw [if_pos ⟨first, last⟩, digits_padded (by decide) (by omega), ok_bind]
  dsimp only
  rw [oneOf_cons (by decide), ok_bind, digits_padded (by decide) (by omega), ok_bind]
  dsimp only
  rw [oneOf_cons (by decide), ok_bind, digits_padded (by decide) (by omega), ok_bind]
  dsimp only
  rw [year, if_pos valid]
  rfl

theorem clockFace_written {hour minute second : Nat} (hours : hour < 100) (minutes : minute < 100)
    (seconds : second < 100) (rest : Input) :
    clockFace (padded 2 hour ++ ':' :: (padded 2 minute ++ ':' :: (padded 2 second ++ rest))) =
      .ok ((hour, minute, second), rest) := by
  unfold clockFace
  rw [digits_padded (by decide) hours, ok_bind]
  dsimp only
  rw [oneOf_cons (by decide), ok_bind, digits_padded (by decide) minutes, ok_bind]
  dsimp only
  rw [oneOf_cons (by decide), ok_bind, digits_padded (by decide) seconds, ok_bind]
  rfl

theorem length_le_byteLength (input : Input) : input.length ≤ byteLength input := by
  induction input with
  | nil =>
      exact Nat.le_refl 0
  | cons c rest ih =>
      have size := Char.utf8Size_pos c
      show rest.length + 1 ≤ c.utf8Size + byteLength rest
      omega

end Rfc3339
end Time

/-! ## Times of the calendar -/

namespace Instant

def year (t : Instant) : Int := (Time.Date.ofDayNumber t.dayNumber).year

/-- Only the last second of a minute may be a leap second. -/
def OnClock (t : Instant) : Prop :=
  t.nanosecond < 1000000000 ∨ t.nanosecond < 2000000000 ∧ t.second % 60 = 59

/-- The year is written without a sign. -/
def InFourDigits (t : Instant) : Prop :=
  0 ≤ t.year ∧ t.year ≤ 9999

instance (t : Instant) : Decidable t.InFourDigits :=
  inferInstanceAs (Decidable (0 ≤ t.year ∧ t.year ≤ 9999))

end Instant

namespace Time
namespace Rfc3339

theorem toList_text (t : Instant) :
    t.text.toList = yearText (Date.ofDayNumber t.dayNumber).year ++ '-' ::
      (padded 2 (Date.ofDayNumber t.dayNumber).month ++ '-' ::
        (padded 2 (Date.ofDayNumber t.dayNumber).day ++ 'T' ::
          (padded 2 (t.secondOfDay.toNat / 3600) ++ ':' ::
            (padded 2 (t.secondOfDay.toNat / 60 % 60) ++ ':' ::
              (padded 2 (t.secondOfDay.toNat % 60 + t.nanosecond / 1000000000) ++
                (fractionText (t.nanosecond % 1000000000) ++ ['Z'])))))) := by
  unfold Instant.text
  rw [String.toList_ofList]
  simp only [chars, List.append_assoc, List.cons_append]

theorem byteLength_text (t : Instant) : 19 ≤ byteLength t.text.toList := by
  have parts : ∀ width value, width ≤ (padded width value).length := by
    intro width value
    unfold padded
    rw [List.length_append, List.length_replicate]
    omega
  have year : 4 ≤ (yearText (Date.ofDayNumber t.dayNumber).year).length := by
    unfold yearText
    split
    · exact parts 4 _
    · exact Nat.le_succ_of_le (parts 4 _)
  apply Nat.le_trans _ (length_le_byteLength _)
  have month := parts 2 (Date.ofDayNumber t.dayNumber).month
  have day := parts 2 (Date.ofDayNumber t.dayNumber).day
  have hour := parts 2 (t.secondOfDay.toNat / 3600)
  have minute := parts 2 (t.secondOfDay.toNat / 60 % 60)
  have second := parts 2 (t.secondOfDay.toNat % 60 + t.nanosecond / 1000000000)
  rw [toList_text]
  simp only [List.length_append, List.length_cons]
  omega

theorem second_of_clock {t : Instant} (clock : t.OnClock) :
    let face := t.secondOfDay.toNat % 60 + t.nanosecond / 1000000000
    t.dayNumber * 86400 + (((t.secondOfDay.toNat / 3600 : Nat) : Int) * 3600 +
        ((t.secondOfDay.toNat / 60 % 60 : Nat) : Int) * 60 +
          ((if face = 60 then 59 else face : Nat) : Int)) - 0 = t.second ∧
      (if face = 60 then t.nanosecond % 1000000000 + 1000000000
        else t.nanosecond % 1000000000) = t.nanosecond := by
  have within : t.secondOfDay = t.second - t.dayNumber * 86400 := by
    unfold Instant.secondOfDay Instant.dayNumber
    omega
  have day : 0 ≤ t.secondOfDay ∧ t.secondOfDay < 86400 := by
    unfold Instant.secondOfDay
    omega
  have minute : t.secondOfDay % 60 = t.second % 60 := by
    unfold Instant.secondOfDay
    omega
  intro face
  rcases clock with regular | ⟨leap, last⟩
  · have usual : ¬face = 60 := by
      omega
    rw [if_neg usual, if_neg usual]
    omega
  · by_cases usual : t.nanosecond < 1000000000
    · have usual' : ¬face = 60 := by
        omega
      rw [if_neg usual', if_neg usual']
      omega
    · -- a leap second is written as second 60 of its minute
      have full : face = 60 := by
        omega
      rw [if_pos full, if_pos full]
      omega

theorem parse_text_of_year {t : Instant} (clock : t.OnClock) (year : t.InFourDigits) :
    parse t.text = .ok t := by
  rcases year with ⟨first, last⟩
  rcases Date.ofDayNumber_spec t.dayNumber with ⟨valid, number, months, days⟩
  have long := byteLength_text t
  have small : t.nanosecond % 1000000000 < 10 ^ 9 := Nat.mod_lt _ (by decide)
  have day : t.secondOfDay.toNat < 86400 := by
    unfold Instant.secondOfDay
    omega
  have face : t.secondOfDay.toNat % 60 + t.nanosecond / 1000000000 < 61 := by
    have minute : t.secondOfDay % 60 = t.second % 60 := by
      unfold Instant.secondOfDay
      omega
    unfold Instant.OnClock at clock
    omega
  have whole := second_of_clock clock
  have utc : offset ['Z'] = .ok (0, []) := rfl
  unfold parse
  rw [if_neg (Nat.not_lt.mpr long), toList_text]
  dsimp only
  rw [date_written valid first last months days, ok_bind]
  dsimp only
  rw [oneOf_cons (by decide), ok_bind, clockFace_written (by omega) (by omega) (by omega), ok_bind]
  dsimp only
  rw [fraction_fractionText small (by decide) (by decide), ok_bind]
  dsimp only
  rw [if_neg (by omega), utc, ok_bind, if_neg (by decide), if_neg (by decide), number, whole.1,
    whole.2]
  rfl

theorem parse_text_of_sign {t : Instant} (other : ¬t.InFourDigits) :
    parse t.text = .error .invalid := by
  have long := byteLength_text t
  have signed : ∃ sign rest, t.text.toList = sign :: rest ∧ digit? sign = none := by
    unfold Instant.InFourDigits Instant.year at other
    rw [toList_text, yearText, if_neg other]
    refine ⟨_, _, rfl, ?_⟩
    split <;> decide
  rcases signed with ⟨sign, rest, text, mark⟩
  have refused : date (sign :: rest) = .error .invalid := by
    unfold date
    rw [digits, mark]
    rfl
  unfold parse
  rw [if_neg (Nat.not_lt.mpr long), text]
  dsimp only
  rw [refused]
  rfl

/-! ## Times that are read -/

theorem digit?_lt {c : Char} {d : Nat} (h : digit? c = some d) : d < 10 := by
  unfold digit? at h
  split at h
  · rename_i range
    have last : c.toNat ≤ 57 := range.2
    cases h
    show c.toNat - 48 < 10
    omega
  · cases h

theorem fractionValue_lt (places : Nat) {values : List Nat} (small : ∀ d ∈ values, d < 10) :
    fractionValue places values < 10 ^ places := by
  induction places generalizing values with
  | zero =>
      exact Nat.one_pos
  | succ places ih =>
      cases values with
      | nil =>
          exact Nat.pow_pos (by decide)
      | cons d others =>
          rcases List.forall_mem_cons.mp small with ⟨first, others⟩
          have rest := ih others
          have lead := Nat.mul_le_mul_right (10 ^ places) (Nat.le_of_lt_succ first)
          rw [fractionValue, Nat.pow_eq, Nat.pow_succ]
          omega

theorem fraction_lt {input rest : Input} {nanosecond : Nat}
    (h : fraction input = .ok (nanosecond, rest)) : nanosecond < 1000000000 := by
  unfold fraction at h
  split at h
  · dsimp only at h
    split at h
    · cases h
    · split at h
      · cases h
      · cases h
        apply fractionValue_lt 9
        intro d mem
        rcases List.mem_filterMap.mp mem with ⟨c, _, digit⟩
        exact digit?_lt digit
  · cases h
    decide

theorem offset_minutes {input rest : Input} {told : Int} (h : offset input = .ok (told, rest)) :
    told % 60 = 0 := by
  unfold offset at h
  split at h
  · cases h
  · split at h
    · cases h
      rfl
    · split at h
      · rcases exists_of_bind_eq_ok h with ⟨⟨hourTens, hourOnes, input⟩, _, h⟩
        dsimp only at h
        split at h
        · rw [ok_bind] at h
          rcases exists_of_bind_eq_ok h with ⟨⟨minuteTens, minuteOnes, input⟩, _, h⟩
          dsimp only at h
          split at h
          · cases h
          · cases h
            split <;> omega
        · cases h
        · cases h
      · cases h

theorem onClock_of_parse {text : String} {t : Instant} (h : parse text = .ok t) : t.OnClock := by
  unfold parse at h
  dsimp only at h
  split at h
  · cases h
  · rcases exists_of_bind_eq_ok h with ⟨⟨day, input⟩, _, h⟩
    rcases exists_of_bind_eq_ok h with ⟨input, _, h⟩
    rcases exists_of_bind_eq_ok h with ⟨⟨⟨hour, minute, second⟩, input⟩, _, h⟩
    rcases exists_of_bind_eq_ok h with ⟨⟨nanosecond, input⟩, read, h⟩
    have small := fraction_lt read
    dsimp only at h
    split at h
    · cases h
    · rcases exists_of_bind_eq_ok h with ⟨⟨shift, input⟩, shifted, h⟩
      have minutes := offset_minutes shifted
      dsimp only at h
      split at h
      · cases h
      · split at h
        · cases h
        · cases h
          unfold Instant.OnClock
          dsimp only
          split
          · omega
          · exact .inl small

/-- Exactly the times of the calendar in the years 0 to 9999 are read back. -/
theorem parse_text_eq_ok_iff {t : Instant} : parse t.text = .ok t ↔ t.OnClock ∧ t.InFourDigits := by
  constructor
  · intro read
    constructor
    · exact onClock_of_parse read
    · by_cases year : t.InFourDigits
      · exact year
      · rw [parse_text_of_sign year] at read
        cases read
  · rintro ⟨clock, year⟩
    exact parse_text_of_year clock year

end Rfc3339
end Time
end MissionControl
