import MissionControl.Time.Instant

/-!
# RFC 3339 texts

Reading and writing instants as `YYYY-MM-DDTHH:MM:SS[.fraction]offset`.  Written texts are in UTC
with the fewest of 0, 3, 6 or 9 fraction digits that lose nothing; texts that are read may have
any offset below a day and any number of fraction digits, of which nine count.
-/

namespace MissionControl
namespace Time
namespace Rfc3339

inductive Fault where
  | premature
  | invalid
  | outOfRange
  | trailing
  deriving Repr, DecidableEq

def Fault.message : Fault → String
  | premature => "premature end of input"
  | invalid => "input contains invalid characters"
  | outOfRange => "input is out of range"
  | trailing => "trailing input"

/-! ## Reading -/

abbrev Input := List Char

def byteLength (input : Input) : Nat :=
  input.foldr (fun c length => c.utf8Size + length) 0

def digit? (c : Char) : Option Nat :=
  if '0' ≤ c ∧ c ≤ '9' then some (c.toNat - '0'.toNat) else none

def digits : Nat → Nat → Input → Except Fault (Nat × Input)
  | 0, value, input => .ok (value, input)
  | _ + 1, _, [] => .error .invalid
  | count + 1, value, c :: input =>
      match digit? c with
      | some d => digits count (10 * value + d) input
      | none => .error .invalid

def oneOf (expected : List Char) : Input → Except Fault Input
  | c :: input => if c ∈ expected then .ok input else .error .invalid
  | [] => .error .invalid

def date (input : Input) : Except Fault (Date × Input) := do
  let (year, input) ← digits 4 0 input
  let input ← oneOf ['-'] input
  let (month, input) ← digits 2 0 input
  let input ← oneOf ['-'] input
  let (day, input) ← digits 2 0 input
  let date : Date := { year := year, month := month, day := day }
  if date.isValid then
    return (date, input)
  else
    throw .outOfRange

def clockFace (input : Input) : Except Fault ((Nat × Nat × Nat) × Input) := do
  let (hour, input) ← digits 2 0 input
  let input ← oneOf [':'] input
  let (minute, input) ← digits 2 0 input
  let input ← oneOf [':'] input
  let (second, input) ← digits 2 0 input
  return ((hour, minute, second), input)

/-- The value of fraction digits read as `places` decimal places; later ones are dropped. -/
def fractionValue : Nat → List Nat → Nat
  | 0, _ => 0
  | places + 1, d :: ds => d * Nat.pow 10 places + fractionValue places ds
  | _ + 1, [] => 0

def fraction : Input → Except Fault (Nat × Input)
  | '.' :: input =>
      let written := input.takeWhile fun c => (digit? c).isSome
      if input.isEmpty then
        .error .premature
      else if written.isEmpty then
        .error .invalid
      else
        .ok (fractionValue 9 (written.filterMap digit?), input.drop written.length)
  | input => .ok (0, input)

def offsetPart (input : Input) : Except Fault (Nat × Nat × Input) :=
  if byteLength input < 2 then
    .error .premature
  else
    match input with
    | a :: b :: rest =>
        match digit? a, digit? b with
        | some tens, some ones => .ok (tens, ones, rest)
        | _, _ => .error .invalid
    | _ => .error .invalid

/-- An offset from UTC in seconds; its size is checked at the very end. -/
def offset : Input → Except Fault (Int × Input)
  | [] => .error .premature
  | c :: input =>
      if c = 'Z' ∨ c = 'z' then
        .ok (0, input)
      else if c = '+' ∨ c = '-' ∨ c = '−' then do
        let (hourTens, hourOnes, input) ← offsetPart input
        let input ←
          match input with
          | ':' :: rest => .ok rest
          | [] => .error .premature
          | _ => .error .invalid
        let (minuteTens, minuteOnes, input) ← offsetPart input
        if 6 ≤ minuteTens then
          throw .outOfRange
        let size : Int := (10 * hourTens + hourOnes) * 3600 + (10 * minuteTens + minuteOnes) * 60
        return (if c = '+' then size else -size, input)
      else
        .error .invalid

def parse (text : String) : Except Fault Instant := do
  let input := text.toList
  if byteLength input < 19 then
    throw .premature
  let (date, input) ← date input
  let input ← oneOf ['T', 't', ' '] input
  let ((hour, minute, second), input) ← clockFace input
  let (nanosecond, input) ← fraction input
  if 24 ≤ hour ∨ 60 ≤ minute ∨ 61 ≤ second then
    throw .outOfRange
  let (offset, input) ← offset input
  if !input.isEmpty then
    throw .trailing
  if 86400 ≤ offset.natAbs then
    throw .outOfRange
  let leap := second = 60
  let secondOfDay : Int := hour * 3600 + minute * 60 + (if leap then 59 else second)
  return {
    second := date.dayNumber * 86400 + secondOfDay - offset
    nanosecond := if leap then nanosecond + 1000000000 else nanosecond }

/-! ## Writing -/

def padded (width value : Nat) : List Char :=
  let digits := Nat.toDigits 10 value
  List.replicate (width - digits.length) '0' ++ digits

/-- Four digits, with a sign in front outside the years 0 to 9999. -/
def yearText (year : Int) : List Char :=
  if 0 ≤ year ∧ year ≤ 9999 then
    padded 4 year.toNat
  else
    (if year < 0 then '-' else '+') :: padded 4 year.natAbs

/-- A point and the fewest of 3, 6 or 9 digits that are exact; nothing on the full second. -/
def fractionText (nanosecond : Nat) : List Char :=
  if nanosecond = 0 then
    []
  else if nanosecond % 1000000 = 0 then
    '.' :: padded 3 (nanosecond / 1000000)
  else if nanosecond % 1000 = 0 then
    '.' :: padded 6 (nanosecond / 1000)
  else
    '.' :: padded 9 nanosecond

def chars (t : Instant) : List Char :=
  let date := Date.ofDayNumber t.dayNumber
  let time := t.secondOfDay.toNat
  let leap := t.nanosecond / 1000000000
  yearText date.year ++ '-' :: padded 2 date.month ++ '-' :: padded 2 date.day ++
    'T' :: padded 2 (time / 3600) ++ ':' :: padded 2 (time / 60 % 60) ++
    ':' :: padded 2 (time % 60 + leap) ++ fractionText (t.nanosecond % 1000000000) ++ ['Z']

end Rfc3339
end Time

namespace Instant

def text (t : Instant) : String :=
  String.ofList (Time.Rfc3339.chars t)

end Instant

end MissionControl
