/-!
# UUID texts

A UUID is written as 32 hexadecimal digits, or as five groups of 8, 4, 4, 4 and 12 digits joined
by hyphens; the grouped form may stand in braces or after `urn:uuid:`.  Digits and the scheme may
be in either case.  `Uuid.parse` reads exactly these texts; every other text is refused with the
reason that a reader looking for a grouped UUID would give first.
-/

namespace MissionControl

structure Uuid where
  value : Nat
  deriving Repr, DecidableEq

namespace Uuid

inductive Fault where
  | length (found : Nat)
  | character (found : Char) (position : Nat)
  | groupCount (found : Nat)
  | groupLength (group expected found : Nat)
  deriving Repr, DecidableEq

namespace Fault

def message : Fault → String
  | length found => s!"invalid length: found {found}"
  | character found position => s!"invalid character: found `{found}` at {position}"
  | groupCount found => s!"invalid group count: expected 5, found {found}"
  | groupLength group expected found =>
      s!"invalid group length in group {group}: expected {expected}, found {found}"

end Fault

/-! ## Digits -/

def hexDigit? (c : Char) : Option Nat :=
  if '0' ≤ c ∧ c ≤ '9' then
    some (c.toNat - '0'.toNat)
  else if 'a' ≤ c ∧ c ≤ 'f' then
    some (c.toNat - 'a'.toNat + 10)
  else if 'A' ≤ c ∧ c ≤ 'F' then
    some (c.toNat - 'A'.toNat + 10)
  else
    none

def ofDigits? (digits : List Char) : Option Nat :=
  digits.foldlM (fun value c => (hexDigit? c).map (16 * value + ·)) 0

def byteLength (text : List Char) : Nat :=
  text.foldr (fun c length => c.utf8Size + length) 0

/-! ## Accepted spellings -/

def groupLengths : List Nat := [8, 4, 4, 4, 12]

def groups? : List Nat → List Char → Option (List Char)
  | [], [] => some []
  | [], _ :: _ => none
  | [last], text => if text.length = last then some text else none
  | size :: sizes, text =>
      match text.drop size with
      | '-' :: rest => (groups? sizes rest).map (text.take size ++ ·)
      | _ => none

def hyphenated? (text : List Char) : Option Uuid := do
  let digits ← groups? groupLengths text
  let value ← ofDigits? digits
  return ⟨value⟩

def scheme : List Char := "urn:uuid:".toList

def afterScheme? (text : List Char) : Option (List Char) :=
  if (text.take scheme.length).map Char.toLower = scheme then
    some (text.drop scheme.length)
  else
    none

def inBraces? : List Char → Option (List Char)
  | '\x7b' :: rest =>
      if rest.getLast? = some '\x7d' then some rest.dropLast else none
  | _ => none

def read? (text : List Char) : Option Uuid :=
  if text.length = 32 then
    (ofDigits? text).map (⟨·⟩)
  else if text.length = 36 then
    hyphenated? text
  else if text.length = 38 then
    inBraces? text >>= hyphenated?
  else if text.length = 45 then
    afterScheme? text >>= hyphenated?
  else
    none

/-! ## Reasons for a refusal -/

/-- The part of a refused text that is explained, and whether it can only be a grouped form. -/
def explained (text : List Char) : List Char × Bool :=
  let size := byteLength text
  if size = 36 then
    (text, true)
  else
    match (if size = 38 then inBraces? text else if size = 45 then afterScheme? text else none) with
    | some inner => (inner, true)
    | none => (text, false)

/-- The part whose characters are scanned, where it starts, and whether it counts as grouped. -/
def scanned (text : List Char) (grouped : Bool) : List Char × Nat × Bool :=
  if grouped then
    (text, 0, true)
  else
    match inBraces? text with
    | some inner => (inner, 1, true)
    | none =>
        match afterScheme? text with
        | some inner => (inner, scheme.length, true)
        | none => (text, 0, false)

def stranger? (position : Nat) : List Char → Option (Char × Nat)
  | [] => none
  | c :: rest =>
      if c = '-' ∨ (hexDigit? c).isSome then
        stranger? (position + c.utf8Size) rest
      else
        some (c, position)

def hyphens (position : Nat) : List Char → List Nat
  | [] => []
  | c :: rest =>
      if c = '-' then
        position :: hyphens (position + 1) rest
      else
        hyphens (position + c.utf8Size) rest

/-- The first of the leading groups that a hyphen ends in the wrong place, numbered from `group`. -/
def misplaced? (group start : Nat) : List Nat → List Nat → Option Fault
  | size :: sizes, ending :: endings =>
      if ending = start + size then
        misplaced? (group + 1) (ending + 1) sizes endings
      else
        some (.groupLength group size (ending - start))
  | _, _ => none

def fault (text : List Char) : Fault :=
  let (part, fixed) := explained text
  let size := byteLength part
  if size > 45 then
    .length size
  else
    let (body, start, grouped) := scanned part fixed
    let breaks := hyphens 0 body
    match stranger? start body with
    | some (c, position) => .character c position
    | none =>
        if !grouped && breaks.isEmpty then
          .length size
        else if breaks.length ≠ 4 then
          .groupCount (breaks.length + 1)
        else
          (misplaced? 0 0 groupLengths breaks).getD (.groupLength 4 12 (size - 24))

def parse (text : String) : Except Fault Uuid :=
  match read? text.toList with
  | some uuid => .ok uuid
  | none => .error (fault text.toList)

end Uuid

end MissionControl
