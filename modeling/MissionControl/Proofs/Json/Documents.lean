import MissionControl.Json.Decode
import MissionControl.Proofs.Json.Scalars

/-!
# Documents of written values

A value that holds no doubles is read from its text as one document, whatever the text stands in,
as long as no number is followed by anything that could belong to it.
-/

namespace MissionControl
namespace Json

open Text (encode)

mutual

def document? : Json → Option Document
  | null => some .null
  | bool value => some (.bool value)
  | integer value => some (.number (.ofInt value))
  | float _ => none
  | text value => some (.text (.ok value))
  | array items => (itemDocuments? items).map fun read => .array read .closed
  | object members => (memberDocuments? members).map fun read => .object read .closed

def itemDocuments? : List Json → Option (List Document)
  | [] => some []
  | item :: rest => do
      let first ← document? item
      let others ← itemDocuments? rest
      return first :: others

def memberDocuments? : List (String × Json) → Option (List Member)
  | [] => some []
  | (key, value) :: rest => do
      let first ← document? value
      let others ← memberDocuments? rest
      return (.ok key, first) :: others

end

/-! ## Words and marks -/

theorem wordToken_append (token : Token) (letters rest : Bytes) :
    wordToken token letters (letters ++ rest) = (token, rest) := by
  induction letters with
  | nil =>
      rfl
  | cons b others ih =>
      rw [List.cons_append, wordToken, if_pos rfl, ih]

theorem tokens_null (rest : Bytes) :
    tokens (encode (chars null) ++ rest) = .null :: tokens rest := by
  show tokens (0x6e :: ([0x75, 0x6c, 0x6c] ++ rest)) = _
  rw [tokens_cons rfl]
  show (wordToken .null _ _).1 :: tokens (wordToken .null _ _).2 = _
  rw [wordToken_append]

theorem tokens_bool (value : Bool) (rest : Bytes) :
    tokens (encode (chars (bool value)) ++ rest) = .bool value :: tokens rest := by
  cases value with
  | false =>
      show tokens (0x66 :: ([0x61, 0x6c, 0x73, 0x65] ++ rest)) = _
      rw [tokens_cons rfl]
      show (wordToken (.bool false) _ _).1 :: tokens (wordToken (.bool false) _ _).2 = _
      rw [wordToken_append]
  | true =>
      show tokens (0x74 :: ([0x72, 0x75, 0x65] ++ rest)) = _
      rw [tokens_cons rfl]
      show (wordToken (.bool true) _ _).1 :: tokens (wordToken (.bool true) _ _).2 = _
      rw [wordToken_append]

theorem endsNumber_nil : EndsNumber [] := by
  intro b mem
  cases mem

theorem endsNumber_cons {b : UInt8} (rest : Bytes)
    (mark : isDigit b = false ∧ b ≠ 0x2e ∧ b ≠ 0x65 ∧ b ≠ 0x45) : EndsNumber (b :: rest) := by
  intro c mem
  cases mem
  exact mark

/-! ## Building documents -/

namespace Document

def Progress.resume : Progress → List Token → Document × List Token
  | .going state, tokens => build state tokens
  | .complete document, tokens => (document, tokens)
  | .stopped document, _ => (document, [])

theorem build_cons (state : State) (token : Token) (rest : List Token) :
    build state (token :: rest) = (state.step token).resume rest := by
  rw [build]
  cases state.step token <;> rfl

def State.Awaits (state : State) (slots : List Slot) : Prop :=
  ∀ token, token ≠ .closeArray → state.step token = valueStep slots token

theorem awaits_value (slots : List Slot) : (State.value slots).Awaits slots := by
  intro token _
  rfl

theorem awaits_first (items : List Document) (slots : List Slot) :
    (State.first (.array items) slots).Awaits (.item items :: slots) := by
  intro token element
  cases token <;> first | rfl | contradiction

theorem State.Awaits.build_cons {state : State} {slots : List Slot} (awaits : state.Awaits slots)
    (token : Token) (element : token ≠ .closeArray) (rest : List Token) :
    build state (token :: rest) = (valueStep slots token).resume rest := by
  rw [Document.build_cons, awaits token element]

def State.inside (first : Bool) (container : Container) (slots : List Slot) : State :=
  if first then .first container slots else .more container slots

mutual

theorem build_chars {value : Json} {read : Document} (told : value.document? = some read)
    {state : State} {slots : List Slot} (awaits : state.Awaits slots) {rest : Bytes}
    (ends : EndsNumber rest) :
    build state (tokens (encode (chars value) ++ rest)) =
      (absorb read slots).resume (tokens rest) := by
  cases value with
  | null =>
      cases told
      rw [tokens_null, awaits.build_cons .null nofun]
      rfl
  | bool b =>
      cases told
      rw [tokens_bool, awaits.build_cons (.bool b) nofun]
      rfl
  | integer n =>
      cases told
      rw [chars, tokens_integer n ends, awaits.build_cons (.number _) nofun]
      rfl
  | float x =>
      cases told
  | text t =>
      cases told
      rw [chars, tokens_textChars, awaits.build_cons (.text _) nofun]
      rfl
  | array items =>
      rw [document?, Option.map_eq_some_iff] at told
      rcases told with ⟨others, told, rfl⟩
      rw [chars, List.cons_append]
      show build state (tokens (0x5b :: (encode (itemChars true items ++ [']']) ++ rest))) = _
      rw [tokens_cons rfl]
      show build state (.openArray :: tokens _) = _
      rw [awaits.build_cons .openArray nofun]
      exact build_itemChars told true [] slots rest
  | object members =>
      rw [document?, Option.map_eq_some_iff] at told
      rcases told with ⟨others, told, rfl⟩
      rw [chars, List.cons_append]
      show build state
        (tokens (0x7b :: (encode (memberChars true members ++ ['\x7d']) ++ rest))) = _
      rw [tokens_cons rfl]
      show build state (.openObject :: tokens _) = _
      rw [awaits.build_cons .openObject nofun]
      exact build_memberChars told true [] slots rest

theorem build_itemChars {items : List Json} {read : List Document}
    (told : itemDocuments? items = some read) (first : Bool) (done : List Document)
    (slots : List Slot) (rest : Bytes) :
    build (.inside first (.array done) slots)
        (tokens (encode (itemChars first items ++ [']']) ++ rest)) =
      (absorb (.array (done.reverse ++ read) .closed) slots).resume (tokens rest) := by
  cases items with
  | nil =>
      cases told
      rw [List.append_nil]
      show build _ (tokens (0x5d :: rest)) = _
      rw [tokens_cons rfl, build_cons]
      cases first <;> rfl
  | cons item others =>
      rcases Option.bind_eq_some_iff.mp told with ⟨one, toldOne, toldOthers⟩
      rcases Option.bind_eq_some_iff.mp toldOthers with ⟨more, toldMore, same⟩
      cases same
      have ends : EndsNumber (encode (itemChars false others ++ [']']) ++ rest) := by
        cases others with
        | nil =>
            exact endsNumber_cons _ (by decide)
        | cons next others =>
            exact endsNumber_cons _ (by decide)
      have element {state : State} (awaits : state.Awaits (.item done :: slots)) :
          build state (tokens (encode (chars item ++ (itemChars false others ++ [']'])) ++ rest)) =
            (absorb (.array (done.reverse ++ one :: more) .closed) slots).resume (tokens rest) := by
        have tail := build_itemChars toldMore false (one :: done) slots rest
        rw [List.reverse_cons, List.append_assoc] at tail
        rw [Text.encode_append, List.append_assoc, build_chars toldOne awaits ends]
        exact tail
      cases first with
      | true =>
          rw [itemChars, List.append_assoc, List.append_assoc]
          exact element (awaits_first done slots)
      | false =>
          rw [itemChars, List.append_assoc, List.append_assoc]
          show build _ (tokens (0x2c :: (encode (chars item ++ _) ++ rest))) = _
          rw [tokens_cons rfl, build_cons]
          exact element (awaits_value _)

theorem build_memberChars {members : List (String × Json)} {read : List Member}
    (told : memberDocuments? members = some read) (first : Bool) (done : List Member)
    (slots : List Slot) (rest : Bytes) :
    build (.inside first (.object done) slots)
        (tokens (encode (memberChars first members ++ ['\x7d']) ++ rest)) =
      (absorb (.object (done.reverse ++ read) .closed) slots).resume (tokens rest) := by
  cases members with
  | nil =>
      cases told
      rw [List.append_nil]
      show build _ (tokens (0x7d :: rest)) = _
      rw [tokens_cons rfl, build_cons]
      cases first <;> rfl
  | cons member others =>
      rcases member with ⟨key, value⟩
      rcases Option.bind_eq_some_iff.mp told with ⟨one, toldOne, toldOthers⟩
      rcases Option.bind_eq_some_iff.mp toldOthers with ⟨more, toldMore, same⟩
      cases same
      have ends : EndsNumber (encode (memberChars false others ++ ['\x7d']) ++ rest) := by
        cases others with
        | nil =>
            exact endsNumber_cons _ (by decide)
        | cons next others =>
            exact endsNumber_cons _ (by decide)
      have keyed : build (.colon done (.ok key) slots)
          (tokens
            (encode (':' :: (chars value ++ (memberChars false others ++ ['\x7d']))) ++ rest)) =
            (absorb (.object (done.reverse ++ (.ok key, one) :: more) .closed) slots).resume
              (tokens rest) := by
        have tail := build_memberChars toldMore false ((.ok key, one) :: done) slots rest
        rw [List.reverse_cons, List.append_assoc] at tail
        show build _ (tokens (0x3a :: (encode (chars value ++ _) ++ rest))) = _
        rw [tokens_cons rfl, build_cons]
        show build (.value (.member done (.ok key) :: slots))
          (tokens (encode (chars value ++ _) ++ rest)) = _
        rw [Text.encode_append, List.append_assoc, build_chars toldOne (awaits_value _) ends]
        exact tail
      cases first with
      | true =>
          rw [memberChars, List.append_assoc, List.append_assoc]
          show build _ (tokens (encode (textChars key ++ _) ++ rest)) = _
          rw [Text.encode_append, List.append_assoc, tokens_textChars, build_cons]
          exact keyed
      | false =>
          rw [memberChars, List.append_assoc, List.append_assoc]
          show build _ (tokens (0x2c :: (encode (textChars key ++ _) ++ rest))) = _
          rw [tokens_cons rfl, build_cons]
          show build (.key done slots) (tokens (encode (textChars key ++ _) ++ rest)) = _
          rw [Text.encode_append, List.append_assoc, tokens_textChars, build_cons]
          exact keyed

end

end Document

/-! ## Whole texts -/

/-- A value that is written and then read is read from its document. -/
theorem parse_render {α : Type} (read : Document → Except ReadFault α) {value : Json}
    {document : Document} (told : value.document? = some document) :
    parse read (Text.bytes value.render) = read document := by
  have whole : Document.ofTokens (tokens (Text.bytes value.render)) = (document, []) := by
    have built := Document.build_chars told (Document.awaits_value []) endsNumber_nil
    rw [List.append_nil] at built
    rw [render, Text.bytes_ofList]
    exact built
  unfold parse
  rw [whole]
  dsimp only
  cases read document <;> rfl

end Json
end MissionControl
