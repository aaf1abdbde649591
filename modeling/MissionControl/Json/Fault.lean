/-!
# Faults in JSON texts

What can be wrong at the first place where a text is not JSON.  A text that ends too early is told
apart from one in which something else stands.
-/

namespace MissionControl
namespace Json

inductive Fault where
  | cutArray
  | cutObject
  | cutString
  /-- The text ends where a value should stand, or inside a word or number. -/
  | cutValue
  | noValue
  | noWord
  | noKey
  | noColon
  | noArrayEnd
  | noObjectEnd
  | badNumber
  | hugeNumber
  | badEscape
  /-- An escape of a code unit without four hexadecimal digits. -/
  | badUnit
  /-- The second half of a surrogate pair without the first, or the first before another unit. -/
  | loneSurrogate
  /-- The first half of a surrogate pair with no unit after it. -/
  | openSurrogate
  | controlCharacter
  | badEncoding
  | trailingComma
  | trailingText
  | tooDeep
  deriving Repr, DecidableEq

namespace Fault

def isCut : Fault → Bool
  | cutArray => true
  | cutObject => true
  | cutString => true
  | cutValue => true
  | _ => false

def message : Fault → String
  | cutArray => "EOF while parsing a list"
  | cutObject => "EOF while parsing an object"
  | cutString => "EOF while parsing a string"
  | cutValue => "EOF while parsing a value"
  | noValue => "expected value"
  | noWord => "expected ident"
  | noKey => "key must be a string"
  | noColon => "expected `:`"
  | noArrayEnd => "expected `,` or `]`"
  | noObjectEnd => "expected `,` or `\x7d`"
  | badNumber => "invalid number"
  | hugeNumber => "number out of range"
  | badEscape => "invalid escape"
  | badUnit => "invalid escape"
  | loneSurrogate => "lone leading surrogate in hex escape"
  | openSurrogate => "unexpected end of hex escape"
  | controlCharacter => "control character (\\u0000-\\u001F) found while parsing a string"
  | badEncoding => "invalid unicode code point"
  | trailingComma => "trailing comma"
  | trailingText => "trailing characters"
  | tooDeep => "recursion limit exceeded"

end Fault

end Json
end MissionControl
