import MissionControl.Json.Decode

/-!
# Reading records

A record has named fields, which are read into a draft of it, one after another.  An object gives
them by name and an array by place.  No field may be given twice, and a member that is no field is
passed over with its value.
-/

namespace MissionControl
namespace Json

/-- A field of a record, with its place in a draft. -/
structure Field (δ : Type) where
  name : String
  {α : Type}
  read : Document → Except ReadFault α
  given : δ → Option α
  put : α → δ → δ

variable {β δ : Type}

def Field.add (f : Field δ) (value : Document) (draft : δ) : Except ReadFault δ :=
  if (f.given draft).isSome then
    .error (.duplicateField f.name)
  else
    (f.read value).map fun x => f.put x draft

def addMember (fields : List (Field δ)) (name : String) (value : Document) (draft : δ) :
    Except ReadFault δ :=
  match fields.find? fun f => f.name = name with
  | some f => f.add value draft
  | none => do
      value.skip
      return draft

def addMembers (fields : List (Field δ)) : List Member → δ → Except ReadFault δ
  | [], draft => .ok draft
  | (name, value) :: rest, draft => do
      let name ← Document.lifted name
      let draft ← addMember fields name value draft
      addMembers fields rest draft

/-- Adds items to a draft, one for each field; there may be fewer than fields, but not more. -/
def addItems : List (Field δ) → List Document → δ → Except ReadFault δ
  | _, [], draft => .ok draft
  | [], _ :: _, _ => .error (.broken .trailingText)
  | f :: fields, value :: rest, draft => do
      let draft ← f.add value draft
      addItems fields rest draft

def readRecord (fields : List (Field δ)) (start : δ) (finish : δ → β) (wanted : String) :
    Document → Except ReadFault β
  | .object members ending => do
      let draft ← addMembers fields members start
      Document.readEnding ending
      return finish draft
  | .array items ending => do
      let draft ← addItems fields items start
      Document.readEnding ending
      return finish draft
  | document => .error (document.mismatch wanted)

end Json
end MissionControl
