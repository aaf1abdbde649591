/-!
# Bytes as text

Texts are encoded in UTF-8.  Bytes that are no text are either refused as a whole, or each part
that cannot be read is replaced by one U+FFFD: a byte that begins nothing, and a character that
breaks off.
-/

namespace MissionControl

abbrev Bytes := List UInt8

namespace Text

def bytes (text : String) : Bytes := text.toUTF8.toList

def utf8? (bytes : Bytes) : Option String :=
  String.fromUTF8? bytes.toByteArray

/-! ## Replacing what cannot be read -/

def replacement : Char := '\ufffd'

/-- A character that has begun. -/
structure Pending where
  /-- Continuation bytes still to come, at least one. -/
  owed : Nat
  /-- The least and the greatest byte that may come next. -/
  low : Nat
  high : Nat
  /-- The bits read so far. -/
  value : Nat

def first (b : Nat) : List Char × Option Pending :=
  if b < 0x80 then ([Char.ofNat b], none)
  else if 0xC2 ≤ b ∧ b ≤ 0xDF then ([], some ⟨1, 0x80, 0xBF, b - 0xC0⟩)
  else if b = 0xE0 then ([], some ⟨2, 0xA0, 0xBF, 0⟩)
  else if b = 0xED then ([], some ⟨2, 0x80, 0x9F, 0xD⟩)
  else if 0xE1 ≤ b ∧ b ≤ 0xEF then ([], some ⟨2, 0x80, 0xBF, b - 0xE0⟩)
  else if b = 0xF0 then ([], some ⟨3, 0x90, 0xBF, 0⟩)
  else if 0xF1 ≤ b ∧ b ≤ 0xF3 then ([], some ⟨3, 0x80, 0xBF, b - 0xF0⟩)
  else if b = 0xF4 then ([], some ⟨3, 0x80, 0x8F, 4⟩)
  else ([replacement], none)

def next (pending : Option Pending) (b : Nat) : List Char × Option Pending :=
  match pending with
  | none => first b
  | some p =>
      if p.low ≤ b ∧ b ≤ p.high then
        let value := 64 * p.value + (b - 0x80)
        if p.owed ≤ 1 then ([Char.ofNat value], none)
        else ([], some ⟨p.owed - 1, 0x80, 0xBF, value⟩)
      else
        let (chars, pending) := first b
        (replacement :: chars, pending)

def replacingFrom (pending : Option Pending) : Bytes → List Char
  | [] => if pending.isSome then [replacement] else []
  | b :: rest =>
      let (chars, pending) := next pending b.toNat
      chars ++ replacingFrom pending rest

def replacing (bytes : Bytes) : String :=
  String.ofList (replacingFrom none bytes)

end Text

end MissionControl
