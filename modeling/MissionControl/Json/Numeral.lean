import MissionControl.Json.Fault
import MissionControl.Json.Value

/-!
# Numerals

A number as it is written in a JSON text, and the value it has.  Digits beyond what 64 bits hold
only count by their places, and a fraction or power of ten is applied to the leading digits by
one multiplication or division of doubles.
-/

namespace MissionControl
namespace Json

/-- The parts of a written number; digits are given by their values. -/
structure Numeral where
  negative : Bool
  whole : List Nat
  places : Option (List Nat)
  power : Option Int
  deriving Repr, DecidableEq

inductive Number where
  | integer (value : Int)
  | float (value : Binary64)
  deriving Repr, DecidableEq

namespace Numeral

def significandLimit : Nat := 18446744073709551615

/-- Appends digits to a significand while it fits; gives the digits that are left as well. -/
def accumulate (significand : Nat) : List Nat → Nat × List Nat
  | [] => (significand, [])
  | d :: rest =>
      if significandLimit < 10 * significand + d then (significand, d :: rest)
      else accumulate (10 * significand + d) rest

def powerOfTen (exponent : Nat) : Binary64 :=
  .ofDecimal false 1 exponent

def scaled (x : Binary64) (exponent : Int) : Except Fault Binary64 :=
  if 308 < exponent then
    if x.units = 0 then .ok x else .error .hugeNumber
  else if 0 ≤ exponent then
    match x.mul (powerOfTen exponent.toNat) with
    | .finite negative significand exponent => .ok (.finite negative significand exponent)
    | _ => .error .hugeNumber
  else if -308 ≤ exponent then
    .ok (x.div (powerOfTen (-exponent).toNat))
  else if x.units = 0 then
    .ok x
  else
    scaled (x.div (powerOfTen 308)) (exponent + 308)
termination_by (-exponent).toNat

def float (negative : Bool) (significand : Nat) (exponent : Int) : Except Fault Number := do
  let x ← scaled (.ofNat significand) exponent
  return .float (if negative then x.neg else x)

def value (n : Numeral) : Except Fault Number :=
  let (significand, dropped) := accumulate 0 n.whole
  match n.places, n.power with
  | none, none =>
      if !dropped.isEmpty then
        float n.negative significand dropped.length
      else if !n.negative then
        .ok (.integer significand)
      else if significand = 0 ∨ 9223372036854775808 < significand then
        .ok (.float (Binary64.ofNat significand).neg)
      else
        .ok (.integer (-significand))
  | places, power =>
      let written := places.getD []
      let (full, ignored) := accumulate significand written
      let counted := written.length - ignored.length
      float n.negative full (dropped.length - counted + power.getD 0)

end Numeral

end Json
end MissionControl
