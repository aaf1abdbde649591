import MissionControl.Number.Binary64

/-!
# Numbers in settings

Whole numbers with an optional plus sign and an upper limit, and double precision numbers in
decimal notation.
-/

namespace MissionControl
namespace Number

inductive Fault where
  | invalidDigit
  | tooLarge
  | invalidFloat
  deriving Repr, DecidableEq

def Fault.message : Fault → String
  | invalidDigit => "invalid digit found in string"
  | tooLarge => "number too large to fit in target type"
  | invalidFloat => "invalid float literal"

def digit? (c : Char) : Option Nat :=
  if '0' ≤ c ∧ c ≤ '9' then some (c.toNat - '0'.toNat) else none

/-- Digits from left to right, continuing `value`; the first fault wins. -/
def digitsUpTo (limit value : Nat) : List Char → Except Fault Nat
  | [] => .ok value
  | c :: rest =>
      match digit? c with
      | none => .error .invalidDigit
      | some d =>
          if limit < 10 * value + d then .error .tooLarge
          else digitsUpTo limit (10 * value + d) rest

def parseUnsigned (limit : Nat) (text : String) : Except Fault Nat :=
  match text.toList with
  | [] => .error .invalidDigit
  | '+' :: [] => .error .invalidDigit
  | '+' :: digits => digitsUpTo limit 0 digits
  | digits => digitsUpTo limit 0 digits

def valueOf (digits : List Char) : Nat :=
  (digits.filterMap digit?).foldl (fun value d => 10 * value + d) 0

def exponent? (text : List Char) : Option Int :=
  let signed (negative : Bool) (digits : List Char) : Option Int :=
    if digits.isEmpty || digits.any fun c => (digit? c).isNone then
      none
    else
      some (if negative then -(valueOf digits : Int) else valueOf digits)
  match text with
  | '-' :: digits => signed true digits
  | '+' :: digits => signed false digits
  | digits => signed false digits

def unsignedFloat? (negative : Bool) (text : List Char) : Option Binary64 :=
  let isDigit (c : Char) : Bool := (digit? c).isSome
  let word := text.map Char.toLower
  if word = "inf".toList ∨ word = "infinity".toList then
    some (.infinite negative)
  else if word = "nan".toList then
    some .nan
  else
    let whole := text.takeWhile isDigit
    let rest := text.drop whole.length
    let (places, rest) :=
      match rest with
      | '.' :: rest => (rest.takeWhile isDigit, rest.dropWhile isDigit)
      | rest => ([], rest)
    let digits := whole ++ places
    if digits.isEmpty then
      none
    else
      let power? :=
        match rest with
        | [] => some 0
        | c :: rest => if c = 'e' ∨ c = 'E' then exponent? rest else none
      power?.map fun power => Binary64.ofDecimal negative (valueOf digits) (power - places.length)

def parseFloat (text : String) : Except Fault Binary64 :=
  let read? :=
    match text.toList with
    | '-' :: rest => unsignedFloat? true rest
    | '+' :: rest => unsignedFloat? false rest
    | rest => unsignedFloat? false rest
  match read? with
  | some x => .ok x
  | none => .error .invalidFloat

end Number
end MissionControl
