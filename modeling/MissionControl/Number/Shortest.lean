import MissionControl.Number.Binary64

/-!
# Shortest decimal texts

A finite double precision number is written with the fewest significant digits that still read
back as the same number, and of those the nearest ones.  They lie on the coarsest decimal grid
that has a point among the reals that round to the number.  Where two such points are equally
near, each place of use says which one it takes.
-/

namespace MissionControl
namespace Binary64

structure Decimal where
  digits : Nat
  exponent : Int
  deriving Repr, DecidableEq

/-- Which of two equally near decimals is taken. -/
inductive Tie where
  | even
  | up
  deriving Repr, DecidableEq

def Tie.round (tie : Tie) (numerator denominator : Nat) : Nat :=
  match tie with
  | even => roundHalfEven numerator denominator
  | up => (2 * numerator + denominator) / (2 * denominator)

namespace Shortest

/-- Reals that round to one number, as multiples of `2 ^ exponent`. -/
structure Interval where
  low : Nat
  value : Nat
  high : Nat
  exponent : Int
  /-- Whether the two ends round to the number as well. -/
  closed : Bool

def interval (significand : Nat) (exponent : Int) : Interval :=
  let nearer := significand = Nat.pow 2 52 ∧ leastExponent < exponent
  { low := 4 * significand - (if nearer then 1 else 2)
    value := 4 * significand
    high := 4 * significand + 2
    exponent := exponent - 2
    closed := significand % 2 = 0 }

/-- `n · 2 ^ binary` divided by `10 ^ decimal`, as numerator and denominator. -/
def onGrid (n : Nat) (binary decimal : Int) : Nat × Nat :=
  (n * Nat.pow 2 binary.toNat * Nat.pow 10 (-decimal).toNat,
    Nat.pow 2 (-binary).toNat * Nat.pow 10 decimal.toNat)

namespace Interval

def holds (i : Interval) (decimal : Int) (point : Nat) : Bool :=
  let low := onGrid i.low i.exponent decimal
  let high := onGrid i.high i.exponent decimal
  if i.closed then
    low.1 ≤ point * low.2 && point * high.2 ≤ high.1
  else
    low.1 < point * low.2 && point * high.2 < high.1

def point? (tie : Tie) (i : Interval) (decimal : Int) : Option Nat :=
  let value := onGrid i.value i.exponent decimal
  let below := value.1 / value.2
  let nearest := tie.round value.1 value.2
  let candidates := [nearest, below, below + 1].filter fun p => p ≠ 0 && i.holds decimal p
  candidates.head?

end Interval

/-- The grids from the coarsest to the finest that a number can need. -/
def grids : List Int :=
  (List.range 650).map fun (n : Nat) => 309 - Int.ofNat n

end Shortest

def shortest (tie : Tie) (significand : Nat) (exponent : Int) : Decimal :=
  let i := Shortest.interval significand exponent
  let hit := Shortest.grids.findSome? fun grid =>
    (i.point? tie grid).map fun point => { digits := point, exponent := grid : Decimal }
  hit.getD ⟨0, 0⟩

/-! ## Layouts -/

structure Layout where
  /-- Which of two equally near decimals is written. -/
  tie : Tie
  /-- The powers of ten of the first digit for which no exponent is written. -/
  isPositional : Int → Bool
  /-- Whether a whole number is written with `.0`. -/
  marksWhole : Bool
  /-- Whether a positive exponent gets a plus sign. -/
  signsExponent : Bool

namespace Decimal

def leading (d : Decimal) : Int :=
  (Nat.toDigits 10 d.digits).length + d.exponent - 1

def positional (d : Decimal) (marksWhole : Bool) : List Char :=
  let digits := Nat.toDigits 10 d.digits
  if 0 ≤ d.exponent then
    digits ++ List.replicate d.exponent.toNat '0' ++ (if marksWhole then ['.', '0'] else [])
  else
    let places := d.exponent.natAbs
    let filled := List.replicate (places + 1 - digits.length) '0' ++ digits
    filled.take (filled.length - places) ++ '.' :: filled.drop (filled.length - places)

def scientific (d : Decimal) (signsExponent : Bool) : List Char :=
  let power := (if signsExponent && 0 ≤ d.leading then "+" else "") ++ toString d.leading
  match Nat.toDigits 10 d.digits with
  | [] => []
  | [first] => first :: 'e' :: power.toList
  | first :: rest => first :: '.' :: rest ++ 'e' :: power.toList

end Decimal

def write (style : Layout) : Binary64 → String
  | nan => "NaN"
  | infinite negative => if negative then "-inf" else "inf"
  | finite negative significand exponent =>
      let decimal := if significand = 0 then ⟨0, 0⟩ else shortest style.tie significand exponent
      let digits :=
        if significand = 0 || style.isPositional decimal.leading then
          decimal.positional style.marksWhole
        else
          decimal.scientific style.signsExponent
      String.ofList (if negative then '-' :: digits else digits)

namespace Layout

def plain : Layout :=
  { tie := .up
    isPositional := fun _ => true
    marksWhole := false
    signsExponent := false }

def diagnostic : Layout :=
  { tie := .up
    isPositional := fun power => -4 ≤ power && power < 16
    marksWhole := true
    signsExponent := false }

def wire : Layout :=
  { tie := .even
    isPositional := fun power => -5 ≤ power && power < 16
    marksWhole := true
    signsExponent := true }

end Layout

end Binary64
end MissionControl
