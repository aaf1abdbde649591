import MissionControl.Text.LowerCase.Table

/-!
# Lower case

The full lower case mapping of a text.  Two letters are not mapped one to one: the dotted capital
I becomes two characters, and a capital sigma that ends a word takes its final form.
-/

namespace MissionControl
namespace Text
namespace LowerCase

namespace Run

def has (r : Run) (code : Nat) : Bool :=
  r.first ≤ code && code ≤ r.last && (code - r.first) % r.stride == 0

def lowered (r : Run) (code : Nat) : Char :=
  Char.ofNat (Int.ofNat code + r.shift).toNat

end Run

def simple (c : Char) : Char :=
  if c.toNat < 0x80 then
    c.toLower
  else
    match runs.find? (·.has c.toNat) with
    | some r => r.lowered c.toNat
    | none => c

def meetsCased (text : List Char) : Bool :=
  match text.dropWhile (caseIgnorable.covers ·) with
  | c :: _ => cased.covers c
  | [] => false

/--
The lower case form of one character between what stands `before` it, nearest first, and what
stands `after` it.
-/
def form (before : List Char) (c : Char) (after : List Char) : List Char :=
  if c = 'Σ' then
    if meetsCased before && !meetsCased after then ['ς'] else ['σ']
  else if c = 'İ' then
    ['i', '\u0307']
  else
    [simple c]

def chars (before : List Char) : List Char → List Char
  | [] => []
  | c :: after => form before c after ++ chars (c :: before) after

end LowerCase

def lowerCase (text : String) : String :=
  String.ofList (LowerCase.chars [] text.toList)

end Text
end MissionControl
