import MissionControl.Json.Numeral
import MissionControl.Text.Utf8

/-!
# JSON tokens

A text is cut into tokens from left to right, without blanks.  The first thing that is no token
ends the list: it is kept as a broken token with what is wrong with it.  A reader that only skips
a value is more lenient than one that reads it: it does not look into strings, and it does not
tell a number that the text cuts off from a malformed one.  Both findings are kept.
-/

namespace MissionControl

namespace Json

inductive Token where
  | openArray
  | closeArray
  | openObject
  | closeObject
  | comma
  | colon
  | null
  | bool (value : Bool)
  | number (numeral : Numeral)
  /-- A string with its content, or what is wrong with the content. -/
  | text (content : Except Fault String)
  /-- A string without an end. -/
  | brokenText (asRead asSkipped : Fault)
  /-- Anything else. -/
  | broken (asRead asSkipped : Fault)

/-! ## Strings -/

/-- What a string is made of: bytes that stand for themselves, and escaped UTF-16 units. -/
inductive Piece where
  | byte (value : UInt8)
  | unit (value : Nat)
  deriving Repr, DecidableEq

def hexDigit? (b : UInt8) : Option Nat :=
  let n := b.toNat
  if 0x30 ≤ n ∧ n ≤ 0x39 then some (n - 0x30)
  else if 0x61 ≤ n ∧ n ≤ 0x66 then some (n - 0x61 + 10)
  else if 0x41 ≤ n ∧ n ≤ 0x46 then some (n - 0x41 + 10)
  else none

def hexUnit? (a b c d : UInt8) : Option Nat := do
  let a ← hexDigit? a
  let b ← hexDigit? b
  let c ← hexDigit? c
  let d ← hexDigit? d
  return ((16 * a + b) * 16 + c) * 16 + d

def escaped? (b : UInt8) : Option UInt8 :=
  if b = 0x22 ∨ b = 0x5c ∨ b = 0x2f then some b
  else if b = 0x62 then some 0x08
  else if b = 0x66 then some 0x0c
  else if b = 0x6e then some 0x0a
  else if b = 0x72 then some 0x0d
  else if b = 0x74 then some 0x09
  else none

def pieces (done : List Piece) : Bytes → List Piece × Except Fault Bytes
  | [] => (done.reverse, .error .cutString)
  | 0x22 :: rest => (done.reverse, .ok rest)
  | 0x5c :: 0x75 :: a :: b :: c :: d :: rest =>
      match hexUnit? a b c d with
      | some unit => pieces (.unit unit :: done) rest
      | none => (done.reverse, .error .badUnit)
  | 0x5c :: e :: rest =>
      if e = 0x75 then
        (done.reverse, .error .cutString)
      else
        match escaped? e with
        | some b => pieces (.byte b :: done) rest
        | none => (done.reverse, .error .badEscape)
  | b :: rest =>
      if b = 0x5c then
        (done.reverse, .error .cutString)
      else if b < 0x20 then
        (done.reverse, .error .controlCharacter)
      else
        pieces (.byte b :: done) rest

def encoded (code : Nat) : Bytes :=
  String.utf8EncodeChar (Char.ofNat code)

/--
The content of a string in UTF-8; escaped units must form whole code points.  `atEnd` is what is
wrong if only the first half of one is there at the end.
-/
def contentBytes (atEnd : Fault) (done : Bytes) : List Piece → Except Fault Bytes
  | [] => .ok done.reverse
  | .byte b :: rest => contentBytes atEnd (b :: done) rest
  | .unit high :: rest =>
      if 0xdc00 ≤ high ∧ high ≤ 0xdfff then
        .error .loneSurrogate
      else if 0xd800 ≤ high ∧ high ≤ 0xdbff then
        match rest with
        | .unit low :: rest =>
            if 0xdc00 ≤ low ∧ low ≤ 0xdfff then
              let code := 0x10000 + (high - 0xd800) * 0x400 + (low - 0xdc00)
              contentBytes atEnd ((encoded code).reverse ++ done) rest
            else
              .error .loneSurrogate
        | .byte _ :: _ => .error .openSurrogate
        | [] => .error atEnd
      else
        contentBytes atEnd ((encoded high).reverse ++ done) rest

def content (inside : List Piece) : Except Fault String :=
  match contentBytes .openSurrogate [] inside with
  | .error fault => .error fault
  | .ok bytes =>
      match Text.utf8? bytes with
      | some decoded => .ok decoded
      | none => .error .badEncoding

/-- What is wrong with half a code point before a fault: it must be followed by a unit. -/
def afterSurrogate : Fault → Fault
  | .badEscape => .openSurrogate
  | .controlCharacter => .openSurrogate
  | fault => fault

def brokenContent (inside : List Piece) (fault : Fault) : Fault :=
  match contentBytes (afterSurrogate fault) [] inside with
  | .error earlier => earlier
  | .ok _ => fault

def stringToken (input : Bytes) : Token × Bytes :=
  match pieces [] input with
  | (inside, .ok rest) => (.text (content inside), rest)
  | (inside, .error fault) => (.brokenText (brokenContent inside fault) fault, [])

/-! ## Numbers and words -/

def isDigit (b : UInt8) : Bool :=
  0x30 ≤ b && b ≤ 0x39

def digitRun (input : Bytes) : List Nat × Bytes :=
  ((input.takeWhile isDigit).map fun b => b.toNat - 0x30, input.dropWhile isDigit)

def lacksDigit (input : Bytes) : Token :=
  if input.isEmpty then .broken .cutValue .badNumber else .broken .badNumber .badNumber

def ofDigits (digits : List Nat) : Nat :=
  digits.foldl (fun value d => 10 * value + d) 0

def power (input : Bytes) : Except Token (Option Int × Bytes) :=
  match input with
  | b :: rest =>
      if b = 0x65 ∨ b = 0x45 then
        let (negative, rest) :=
          match rest with
          | 0x2b :: rest => (false, rest)
          | 0x2d :: rest => (true, rest)
          | rest => (false, rest)
        let (digits, after) := digitRun rest
        if digits.isEmpty then
          .error (lacksDigit rest)
        else
          let size : Int := ofDigits digits
          .ok (some (if negative then -size else size), after)
      else
        .ok (none, input)
  | [] => .ok (none, input)

def places (input : Bytes) : Except Token (Option (List Nat) × Bytes) :=
  match input with
  | 0x2e :: rest =>
      let (digits, after) := digitRun rest
      if digits.isEmpty then .error (lacksDigit rest) else .ok (some digits, after)
  | _ => .ok (none, input)

def numberToken (negative : Bool) (input : Bytes) : Token × Bytes :=
  let (whole, rest) := digitRun input
  match whole with
  | [] => (lacksDigit input, [])
  | 0 :: _ :: _ => (.broken .badNumber .badNumber, [])
  | whole =>
      match places rest with
      | .error token => (token, [])
      | .ok (places, rest) =>
          match power rest with
          | .error token => (token, [])
          | .ok (power, rest) =>
              (.number { negative := negative, whole := whole, places := places, power := power },
                rest)

def wordToken (token : Token) : Bytes → Bytes → Token × Bytes
  | [], rest => (token, rest)
  | _ :: _, [] => (.broken .cutValue .cutValue, [])
  | expected :: letters, b :: rest =>
      if b = expected then wordToken token letters rest
      else (.broken .noWord .noWord, [])

/-! ## Texts -/

def isBlank (b : UInt8) : Bool :=
  b = 0x20 || b = 0x0a || b = 0x0d || b = 0x09

def tokenAt (b : UInt8) (rest : Bytes) : Token × Bytes :=
  if b = 0x5b then (.openArray, rest)
  else if b = 0x5d then (.closeArray, rest)
  else if b = 0x7b then (.openObject, rest)
  else if b = 0x7d then (.closeObject, rest)
  else if b = 0x2c then (.comma, rest)
  else if b = 0x3a then (.colon, rest)
  else if b = 0x22 then stringToken rest
  else if b = 0x2d then numberToken true rest
  else if isDigit b then numberToken false (b :: rest)
  else if b = 0x6e then wordToken .null [0x75, 0x6c, 0x6c] rest
  else if b = 0x74 then wordToken (.bool true) [0x72, 0x75, 0x65] rest
  else if b = 0x66 then wordToken (.bool false) [0x61, 0x6c, 0x73, 0x65] rest
  else (.broken .noValue .noValue, [])

/-- The tokens of a text, after the ones already `done`; `fuel` bounds their number. -/
def tokensFrom (fuel : Nat) (done : List Token) (input : Bytes) : List Token :=
  match fuel, input with
  | 0, _ => done.reverse
  | _, [] => done.reverse
  | fuel + 1, b :: rest =>
      if isBlank b then
        tokensFrom fuel done rest
      else
        let (token, rest) := tokenAt b rest
        tokensFrom fuel (token :: done) rest

def tokens (input : Bytes) : List Token :=
  tokensFrom input.length [] input

end Json
end MissionControl
