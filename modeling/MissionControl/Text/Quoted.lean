import MissionControl.Text.Printable.Table

/-!
# Quoted text

A text in double quotes with everything that would not show in a log line written as an escape.
-/

namespace MissionControl
namespace Text

namespace Quoted

def standsForItself (c : Char) : Bool :=
  if c.toNat < 0x7f then
    0x20 ≤ c.toNat
  else
    !Printable.extending.covers c && !Printable.unprintable.covers c

def escape (c : Char) : List Char :=
  match c with
  | '\x00' => ['\\', '0']
  | '\t' => ['\\', 't']
  | '\r' => ['\\', 'r']
  | '\n' => ['\\', 'n']
  | '"' => ['\\', '"']
  | '\\' => ['\\', '\\']
  | c =>
      if standsForItself c then
        [c]
      else
        ['\\', 'u', '\x7b'] ++ Nat.toDigits 16 c.toNat ++ ['\x7d']

end Quoted

def quoted (text : String) : String :=
  String.ofList ('"' :: text.toList.flatMap Quoted.escape ++ ['"'])

def commaSeparated (texts : List String) : String :=
  ", ".intercalate texts

end Text
end MissionControl
