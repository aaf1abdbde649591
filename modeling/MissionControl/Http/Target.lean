import MissionControl.Text.Utf8

/-!
# Request targets

A target is a path and a query, with or without the authority before them.  Paths are compared as
they stand, and only a part that names a rocket is decoded.  A query is a list of named values; in
it a plus stands for a space and bytes that are no text are replaced.
-/

namespace MissionControl
namespace Http

/-! ## Percent encoding -/

def nibble? (b : UInt8) : Option Nat :=
  let n := b.toNat
  if 0x30 ≤ n ∧ n ≤ 0x39 then some (n - 0x30)
  else if 0x41 ≤ n ∧ n ≤ 0x46 then some (n - 0x41 + 10)
  else if 0x61 ≤ n ∧ n ≤ 0x66 then some (n - 0x61 + 10)
  else none

/-- Puts bytes in the place of their escapes; a percent sign that begins none stays. -/
def percentDecode : Bytes → Bytes
  | 0x25 :: high :: low :: rest =>
      match nibble? high, nibble? low with
      | some high, some low => UInt8.ofNat (16 * high + low) :: percentDecode rest
      | _, _ => 0x25 :: percentDecode (high :: low :: rest)
  | b :: rest => b :: percentDecode rest
  | [] => []

/-! ## Targets -/

structure Target where
  path : Bytes
  query : Bytes := []
  deriving Repr, DecidableEq

def cut (mark : UInt8) (bytes : Bytes) : Bytes × Bytes :=
  (bytes.takeWhile (· ≠ mark), (bytes.dropWhile (· ≠ mark)).drop 1)

def withoutAuthority (target : Bytes) : Bytes :=
  match (target.takeWhile (· ≠ 0x2f)).getLast?, target.dropWhile (· ≠ 0x2f) with
  | some 0x3a, 0x2f :: 0x2f :: rest => rest.dropWhile fun b => b ≠ 0x2f && b ≠ 0x3f
  | _, _ => target

/-- Reads a target; what follows a number sign is not part of it, and an empty path is the root. -/
def Target.parse (text : String) : Target :=
  let (path, query) := cut 0x3f (withoutAuthority (cut 0x23 (Text.bytes text)).1)
  { path := if path.isEmpty then [0x2f] else path, query := query }

/-! ## Queries -/

def split (mark : UInt8) : Bytes → List Bytes
  | [] => [[]]
  | b :: rest =>
      match split mark rest with
      | [] => [[b]]
      | part :: parts => if b = mark then [] :: part :: parts else (b :: part) :: parts

def formDecode (bytes : Bytes) : String :=
  Text.replacing (percentDecode (bytes.map fun b => if b = 0x2b then 0x20 else b))

def Target.parameters (t : Target) : List (String × String) :=
  ((split 0x26 t.query).filter fun part => !part.isEmpty).map fun part =>
    let (name, value) := cut 0x3d part
    (formDecode name, formDecode value)

end Http
end MissionControl
