import MissionControl.Json.Value
import MissionControl.Number.Shortest

/-!
# JSON texts

Values are written without blanks.  In strings only quotes, backslashes and control characters
are escaped.
-/

namespace MissionControl
namespace Json

def hexDigit (n : Nat) : Char :=
  if n < 10 then Char.ofNat (n + '0'.toNat) else Char.ofNat (n - 10 + 'a'.toNat)

def escape (c : Char) : List Char :=
  if c = '"' then ['\\', '"']
  else if c = '\\' then ['\\', '\\']
  else if c = '\x08' then ['\\', 'b']
  else if c = '\x0c' then ['\\', 'f']
  else if c = '\n' then ['\\', 'n']
  else if c = '\r' then ['\\', 'r']
  else if c = '\t' then ['\\', 't']
  else if c.toNat < 0x20 then
    ['\\', 'u', '0', '0', hexDigit (c.toNat / 16), hexDigit (c.toNat % 16)]
  else
    [c]

def textChars (text : String) : List Char :=
  '"' :: text.toList.flatMap escape ++ ['"']

mutual

def chars : Json → List Char
  | null => "null".toList
  | bool value => (if value then "true" else "false").toList
  | integer value => (toString value).toList
  | float value => (value.write .wire).toList
  | text value => textChars value
  | array items => '[' :: itemChars true items ++ [']']
  | object members => '\x7b' :: memberChars true members ++ ['\x7d']

def itemChars (first : Bool) : List Json → List Char
  | [] => []
  | item :: rest => (if first then [] else [',']) ++ chars item ++ itemChars false rest

def memberChars (first : Bool) : List (String × Json) → List Char
  | [] => []
  | (key, value) :: rest =>
      (if first then [] else [',']) ++ textChars key ++ ':' :: chars value ++ memberChars false rest

end

def render (value : Json) : String :=
  String.ofList (chars value)

end Json
end MissionControl
