import MissionControl.Json.Document
import MissionControl.Number.Shortest
import MissionControl.Text.Quoted

/-!
# Reading values of a known shape

A reader goes through a document from left to right and stops at the first thing that is wrong:
a break in the text, or a value of another shape than the one wanted.
-/

namespace MissionControl
namespace Json

/-- Why a text does not hold the wanted value. -/
inductive ReadFault where
  | broken (fault : Fault)
  /-- A text that is held by a string and stands for a value is broken. -/
  | brokenInside (fault : Fault)
  | wrongType (found wanted : String)
  | wrongValue (found wanted : String)
  | wrongLength (found : Nat) (wanted : String)
  | missingField (name : String)
  | duplicateField (name : String)
  /-- A fault found elsewhere, in its own words. -/
  | stated (reason : String)
  deriving Repr, DecidableEq

namespace ReadFault

def message : ReadFault → String
  | broken fault => if fault.isCut then "<eof>" else "<syntax>"
  | brokenInside fault => fault.message
  | wrongType found wanted => s!"invalid type: {found}, expected {wanted}"
  | wrongValue found wanted => s!"invalid value: {found}, expected {wanted}"
  | wrongLength found wanted => s!"invalid length {found}, expected {wanted}"
  | missingField name => s!"missing field `{name}`"
  | duplicateField name => s!"duplicate field `{name}`"
  | stated reason => reason

end ReadFault

/-! ## What was found -/

def Number.described : Number → String
  | integer value => s!"integer `{value}`"
  | float value => s!"floating point `{value.write .wire}`"

def describedBool (value : Bool) : String :=
  s!"boolean `{value}`"

def describedText (value : String) : String :=
  s!"string {Text.quoted value}"

def described : Json → String
  | null => "null"
  | bool value => describedBool value
  | integer value => Number.described (.integer value)
  | float value => Number.described (.float value)
  | text value => describedText value
  | array _ => "sequence"
  | object _ => "map"

/-! ## Number ranges -/

inductive Width where
  | unsigned
  | signed
  deriving Repr, DecidableEq

def Width.name : Width → String
  | unsigned => "u64"
  | signed => "i64"

def Width.holds (width : Width) (value : Int) : Bool :=
  match width with
  | unsigned => decide (0 ≤ value ∧ value ≤ 18446744073709551615)
  | signed => decide (-9223372036854775808 ≤ value ∧ value ≤ 9223372036854775807)

def Number.toInt (width : Width) (number : Number) : Except ReadFault Int :=
  match number with
  | integer value =>
      if width.holds value then .ok value
      else .error (.wrongValue (Number.described number) width.name)
  | float _ => .error (.wrongType (Number.described number) width.name)

namespace Document

def lifted {α : Type} : Except Fault α → Except ReadFault α
  | .ok value => .ok value
  | .error fault => .error (.broken fault)

def mismatch (wanted : String) : Document → ReadFault
  | null => .wrongType "null" wanted
  | bool value => .wrongType (describedBool value) wanted
  | number numeral =>
      match numeral.value with
      | .ok found => .wrongType found.described wanted
      | .error fault => .broken fault
  | text content =>
      match content with
      | .ok value => .wrongType (describedText value) wanted
      | .error fault => .broken fault
  | array _ _ => .wrongType "sequence" wanted
  | object _ _ => .wrongType "map" wanted
  | broken asRead _ => .broken asRead

def readTextAs (wanted : String) : Document → Except ReadFault String
  | text content => lifted content
  | document => .error (document.mismatch wanted)

def readText (document : Document) : Except ReadFault String :=
  document.readTextAs "a string"

def readOptionalText : Document → Except ReadFault (Option String)
  | null => .ok none
  | document => (readText document).map some

def readInt (width : Width) : Document → Except ReadFault Int
  | number numeral => lifted numeral.value >>= Number.toInt width
  | document => .error (document.mismatch width.name)

/-! ## Endings -/

def skipEnding : Ending → Except ReadFault Unit
  | .closed => .ok ()
  | .broken _ asSkipped => .error (.broken asSkipped)

def readEnding : Ending → Except ReadFault Unit
  | .closed => .ok ()
  | .broken asRead _ => .error (.broken asRead)

/-! ## Enclosed values -/

/-- The key of an object that stands for the value of which it encloses the text. -/
def enclosedKey : String := "$serde_json::private::RawValue"

def enclosed? : List Member → Option (Document × List Member)
  | (.ok key, value) :: rest => if key = enclosedKey then some (value, rest) else none
  | _ => none

/-- What is wrong with the end of an object in which no comma may follow. -/
def endingFault : Fault → Fault
  | .cutObject => .cutObject
  | .noObjectEnd => .trailingText
  | _ => .trailingComma

def readEnclosedEnd : List Member → Ending → Except ReadFault Unit
  | [], .closed => .ok ()
  | [], .broken asRead _ => .error (.broken (endingFault asRead))
  | _ :: _, _ => .error (.broken .trailingComma)

def readEnclosedValue (readEnclosed : String → Except ReadFault Json) (value : Document)
    (rest : List Member) (ending : Ending) : Except ReadFault Json := do
  let text ← value.readTextAs "raw value"
  let value ← readEnclosed text
  readEnclosedEnd rest ending
  return value

/-! ## Values of any shape -/

mutual

/--
Any value; `depth` more arrays and objects may be opened inside one another, and `readEnclosed`
reads the texts of enclosed values.
-/
def readValue (readEnclosed : String → Except ReadFault Json) (depth : Nat) :
    Document → Except ReadFault Json
  | null => .ok .null
  | bool value => .ok (.bool value)
  | number numeral =>
      match numeral.value with
      | .ok (.integer value) => .ok (.integer value)
      | .ok (.float value) => .ok (.float value)
      | .error fault => .error (.broken fault)
  | text content => (lifted content).map .text
  | array items ending =>
      match depth with
      | 0 => .error (.broken .tooDeep)
      | depth + 1 => do
          let values ← readItems readEnclosed depth items
          readEnding ending
          return .array values
  | object members ending =>
      match depth with
      | 0 => .error (.broken .tooDeep)
      | depth + 1 =>
          match enclosed? members with
          | some (value, rest) => readEnclosedValue readEnclosed value rest ending
          | none => do
              let values ← readMembers readEnclosed depth members
              readEnding ending
              return ofMembers values
  | broken asRead _ => .error (.broken asRead)

def readItems (readEnclosed : String → Except ReadFault Json) (depth : Nat) :
    List Document → Except ReadFault (List Json)
  | [] => .ok []
  | item :: rest => do
      let value ← readValue readEnclosed depth item
      let values ← readItems readEnclosed depth rest
      return value :: values

def readMembers (readEnclosed : String → Except ReadFault Json) (depth : Nat) :
    List Member → Except ReadFault (List (String × Json))
  | [] => .ok []
  | (key, value) :: rest => do
      let key ← lifted key
      let value ← readValue readEnclosed depth value
      let values ← readMembers readEnclosed depth rest
      return (key, value) :: values

end

/-! ## Values that are not wanted -/

mutual

def skip : Document → Except ReadFault Unit
  | array items ending => do
      skipItems items
      skipEnding ending
  | object members ending => do
      skipMembers members
      skipEnding ending
  | broken _ asSkipped => .error (.broken asSkipped)
  | _ => .ok ()

def skipItems : List Document → Except ReadFault Unit
  | [] => .ok ()
  | item :: rest => do
      skip item
      skipItems rest

def skipMembers : List (Except Fault String × Document) → Except ReadFault Unit
  | [] => .ok ()
  | (_, value) :: rest => do
      skip value
      skipMembers rest

end

end Document

def parse {α : Type} (read : Document → Except ReadFault α) (input : Bytes) :
    Except ReadFault α := do
  let (document, rest) := Document.ofTokens (tokens input)
  let value ← read document
  if rest.isEmpty then
    return value
  else
    throw (.broken .trailingText)

/-! ## Texts of values -/

def depthLimit : Nat := 127

def ReadFault.enclosed : ReadFault → ReadFault
  | broken fault => brokenInside fault
  | fault => fault

/--
The value that a text encloses.  An enclosed text is shorter than the one that it stands in, so
texts enclose one another at most as often as the outermost is long, which is what `bound` is.
-/
def parseEnclosed : (bound : Nat) → String → Except ReadFault Json
  | 0, _ => .error (.broken .tooDeep)
  | bound + 1, enclosed =>
      (parse (Document.readValue (parseEnclosed bound) depthLimit) (Text.bytes enclosed)).mapError
        ReadFault.enclosed

end Json
end MissionControl
