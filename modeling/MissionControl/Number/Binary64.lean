/-!
# Double precision numbers

Binary floating point with 53 bits of significand, kept as exact integers.  Every operation is
its exact result rounded to the nearest representable number, ties to the even significand.
-/

namespace MissionControl

/--
A double precision number; a finite one is `significand · 2 ^ exponent` with a sign.  The
significand is below `2 ^ 53`, and at least `2 ^ 52` unless the exponent is the least one, -1074.
-/
inductive Binary64 where
  | finite (negative : Bool) (significand : Nat) (exponent : Int)
  | infinite (negative : Bool)
  | nan
  deriving Repr, DecidableEq

namespace Binary64

def leastExponent : Int := -1074

def greatestExponent : Int := 971

def zero (negative : Bool) : Binary64 := .finite negative 0 leastExponent

instance : Inhabited Binary64 := ⟨zero false⟩

/-! ## Rounding -/

def roundHalfEven (numerator denominator : Nat) : Nat :=
  let quotient := numerator / denominator
  let twice := 2 * (numerator % denominator)
  if twice < denominator ∨ twice = denominator ∧ quotient % 2 = 0 then
    quotient
  else
    quotient + 1

def scaledDown (numerator denominator : Nat) (exponent : Int) : Nat × Nat :=
  if 0 ≤ exponent then
    (numerator, denominator * Nat.pow 2 exponent.toNat)
  else
    (numerator * Nat.pow 2 (-exponent).toNat, denominator)

/-- The exponent under which a quotient gets 53 bits, or the least one if it is too small. -/
def exponentFor (numerator denominator : Nat) : Int :=
  let guess : Int := numerator.log2 - denominator.log2 - 53
  let scaled := scaledDown numerator denominator guess
  max leastExponent (if scaled.1 < Nat.pow 2 53 * scaled.2 then guess else guess + 1)

def ofQuotient (negative : Bool) (numerator denominator : Nat) : Binary64 :=
  if numerator = 0 then
    zero negative
  else
    let exponent := exponentFor numerator denominator
    let scaled := scaledDown numerator denominator exponent
    let rounded := roundHalfEven scaled.1 scaled.2
    let carried := rounded = Nat.pow 2 53
    let significand := if carried then Nat.pow 2 52 else rounded
    let exponent := if carried then exponent + 1 else exponent
    if greatestExponent < exponent then .infinite negative
    else .finite negative significand exponent

def ofNat (n : Nat) : Binary64 :=
  ofQuotient false n 1

def ofDecimal (negative : Bool) (digits : Nat) (exponent : Int) : Binary64 :=
  let magnitude : Int := (Nat.toDigits 10 digits).length + exponent
  if digits = 0 ∨ magnitude < -330 then
    zero negative
  else if 320 < magnitude then
    .infinite negative
  else if 0 ≤ exponent then
    ofQuotient negative (digits * Nat.pow 10 exponent.toNat) 1
  else
    ofQuotient negative digits (Nat.pow 10 (-exponent).toNat)

/-! ## Arithmetic -/

def withSign (negative : Bool) (n : Nat) : Int := if negative then -n else n

def isNegative : Binary64 → Bool
  | finite negative _ _ => negative
  | infinite negative => negative
  | nan => false

def neg : Binary64 → Binary64
  | finite negative significand exponent => finite (!negative) significand exponent
  | infinite negative => infinite (!negative)
  | nan => nan

def ofScaled (negative : Bool) (numerator denominator : Nat) (exponent : Int) : Binary64 :=
  let scaled := scaledDown numerator denominator (-exponent)
  ofQuotient negative scaled.1 scaled.2

def mul : Binary64 → Binary64 → Binary64
  | finite s m e, finite s' m' e' => ofScaled (s != s') (m * m') 1 (e + e')
  | infinite s, finite s' m' _ => if m' = 0 then nan else infinite (s != s')
  | finite s m _, infinite s' => if m = 0 then nan else infinite (s != s')
  | infinite s, infinite s' => infinite (s != s')
  | nan, _ => nan
  | _, nan => nan

def div : Binary64 → Binary64 → Binary64
  | finite s m e, finite s' m' e' =>
      if m' = 0 then
        if m = 0 then nan else infinite (s != s')
      else
        ofScaled (s != s') m m' (e - e')
  | infinite s, finite s' _ _ => infinite (s != s')
  | finite s _ _, infinite s' => zero (s != s')
  | infinite _, infinite _ => nan
  | nan, _ => nan
  | _, nan => nan

def add : Binary64 → Binary64 → Binary64
  | finite s m e, finite s' m' e' =>
      let least := min e e'
      let sum :=
        withSign s (m * Nat.pow 2 (e - least).toNat) +
          withSign s' (m' * Nat.pow 2 (e' - least).toNat)
      if sum = 0 then zero (s && s') else ofScaled (decide (sum < 0)) sum.natAbs 1 least
  | infinite s, infinite s' => if s = s' then infinite s else nan
  | infinite s, finite _ _ _ => infinite s
  | finite _ _ _, infinite s => infinite s
  | nan, _ => nan
  | _, nan => nan

/-! ## Comparison -/

/-- The exact value of a finite number in units of `2 ^ -1074`; infinities lie beyond all. -/
def units : Binary64 → Int
  | finite negative significand exponent =>
      withSign negative (significand * Nat.pow 2 (exponent - leastExponent).toNat)
  | infinite negative => withSign negative (Nat.pow 2 2099)
  | nan => 0

/-- Whether one number is at most the other; nothing compares with a NaN. -/
def le (a b : Binary64) : Bool :=
  a ≠ nan && b ≠ nan && decide (a.units ≤ b.units)

def one : Binary64 := ofNat 1

def clampToUnit (x : Binary64) : Binary64 :=
  if x = nan then nan
  else if x.units < 0 then zero false
  else if one.units < x.units then one
  else x

def toRat : Binary64 → Rat
  | finite negative significand exponent =>
      let scaled := scaledDown significand 1 (-exponent)
      mkRat (withSign negative scaled.1) scaled.2
  | _ => 0

end Binary64

end MissionControl
