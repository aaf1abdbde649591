import MissionControl.Json.Token

/-!
# Documents

The shape of a JSON text up to the first place where it is broken.  Whoever reads a document from
left to right meets the break, if there is one, exactly where a reader of the text would.
-/

namespace MissionControl
namespace Json

/-- How an array or object ends: with its bracket, or with what is wrong in its place. -/
inductive Ending where
  | closed
  | broken (asRead asSkipped : Fault)
  deriving Repr, DecidableEq

/-- The shape of a text. -/
inductive Document where
  | null
  | bool (value : Bool)
  | number (numeral : Numeral)
  | text (content : Except Fault String)
  | array (items : List Document) (ending : Ending)
  | object (members : List (Except Fault String × Document)) (ending : Ending)
  /-- What is wrong where a value should stand. -/
  | broken (asRead asSkipped : Fault)

abbrev Member := Except Fault String × Document

namespace Document

/-- A place for a value: the end of the text, the next item of an array, the value of a member. -/
inductive Slot where
  | item (before : List Document)
  | member (before : List Member) (key : Except Fault String)

/-- An array or object that has not been closed, its contents last first. -/
inductive Container where
  | array (items : List Document)
  | object (members : List Member)

/-- What may come next; the slots are the containers around it, innermost first. -/
inductive State where
  | value (slots : List Slot)
  /-- The first element of a container, or its end. -/
  | first (container : Container) (slots : List Slot)
  /-- A comma and another element, or the end of the container. -/
  | more (container : Container) (slots : List Slot)
  | key (members : List Member) (slots : List Slot)
  /-- The colon after a key. -/
  | colon (members : List Member) (key : Except Fault String) (slots : List Slot)

inductive Progress where
  | going (state : State)
  | complete (document : Document)
  | stopped (document : Document)

def Slot.fill (value : Document) : Slot → Container
  | item before => .array (value :: before)
  | member before key => .object ((key, value) :: before)

def Container.close (ending : Ending) : Container → Document
  | array items => .array items.reverse ending
  | object members => .object members.reverse ending

def absorb (value : Document) : List Slot → Progress
  | [] => .complete value
  | slot :: slots => .going (.more (slot.fill value) slots)

def stop (asRead asSkipped : Fault) (part : Document) (slots : List Slot) : Progress :=
  .stopped (slots.foldl (fun inner slot =>
    (slot.fill inner).close (.broken asRead asSkipped)) part)

def stopAtValue (asRead asSkipped : Fault) (slots : List Slot) : Progress :=
  stop asRead asSkipped (.broken asRead asSkipped) slots

def stopInside (asRead asSkipped : Fault) (container : Container) (slots : List Slot) : Progress :=
  stop asRead asSkipped (container.close (.broken asRead asSkipped)) slots

def strayBracket : List Slot → Fault
  | .item _ :: _ => .trailingComma
  | _ => .noValue

def valueStep (slots : List Slot) : Token → Progress
  | .null => absorb .null slots
  | .bool value => absorb (.bool value) slots
  | .number numeral => absorb (.number numeral) slots
  | .text content => absorb (.text content) slots
  | .openArray => .going (.first (.array []) slots)
  | .openObject => .going (.first (.object []) slots)
  | .brokenText asRead asSkipped => stopAtValue asRead asSkipped slots
  | .broken asRead asSkipped => stopAtValue asRead asSkipped slots
  | .closeArray => stopAtValue (strayBracket slots) (strayBracket slots) slots
  | .closeObject => stopAtValue .noValue .noValue slots
  | .comma => stopAtValue .noValue .noValue slots
  | .colon => stopAtValue .noValue .noValue slots

def keyStep (members : List Member) (slots : List Slot) : Token → Progress
  | .text content => .going (.colon members content slots)
  | .brokenText asRead asSkipped => stopInside asRead asSkipped (.object members) slots
  | .closeObject => stopInside .trailingComma .trailingComma (.object members) slots
  | _ => stopInside .noKey .noKey (.object members) slots

def State.step (state : State) (token : Token) : Progress :=
  match state, token with
  | value slots, token => valueStep slots token
  | first (.array items) slots, .closeArray => absorb (Container.close .closed (.array items)) slots
  | first (.array items) slots, token => valueStep (.item items :: slots) token
  | first (.object members) slots, .closeObject =>
      absorb (Container.close .closed (.object members)) slots
  | first (.object members) slots, token => keyStep members slots token
  | more (.array items) slots, .closeArray => absorb (Container.close .closed (.array items)) slots
  | more (.array items) slots, .comma => .going (.value (.item items :: slots))
  | more (.object members) slots, .closeObject =>
      absorb (Container.close .closed (.object members)) slots
  | more (.object members) slots, .comma => .going (.key members slots)
  | more (.array items) slots, _ => stopInside .noArrayEnd .noArrayEnd (.array items) slots
  | more (.object members) slots, _ =>
      stopInside .noObjectEnd .noObjectEnd (.object members) slots
  | key members slots, token => keyStep members slots token
  | colon members name slots, .colon => .going (.value (.member members name :: slots))
  | colon members name slots, _ =>
      stopAtValue .noColon .noColon (.member members name :: slots)

def Container.cut : Container → Fault
  | array _ => .cutArray
  | object _ => .cutObject

def State.atEnd : State → Progress
  | value slots => stopAtValue .cutValue .cutValue slots
  | first container slots => stopInside container.cut container.cut container slots
  | more container slots => stopInside container.cut container.cut container slots
  | key members slots => stopInside .cutValue .cutValue (.object members) slots
  | colon members name slots =>
      stopAtValue .cutObject .cutObject (.member members name :: slots)

def build (state : State) : List Token → Document × List Token
  | [] =>
      match state.atEnd with
      | .complete document => (document, [])
      | .stopped document => (document, [])
      | .going _ => (.broken .cutValue .cutValue, [])
  | token :: rest =>
      match state.step token with
      | .going state => build state rest
      | .complete document => (document, rest)
      | .stopped document => (document, [])

def ofTokens (tokens : List Token) : Document × List Token :=
  build (.value []) tokens

end Document
end Json
end MissionControl
