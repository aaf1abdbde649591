import MissionControl.Text.Utf8

/-!
# Texts as bytes

The bytes of a text are those of its characters, one after another, and give the text back.  A
character of the ASCII range is one byte, and no byte of any other character lies in that range, so
what is cut at ASCII bytes is cut between characters.
-/

namespace MissionControl
namespace Text

/-! ## Byte arrays as lists -/

theorem toList_loop (array : ByteArray) (start : Nat) (done : Bytes) :
    ByteArray.toList.loop array start done = done.reverse ++ array.data.toList.drop start := by
  fun_induction ByteArray.toList.loop array start done with
  | case1 start done inside ih =>
      have short : start < array.data.toList.length := by
        simpa using inside
      have head : array.get! start = array.data.toList[start] := by
        have same : array.get! start = array.data[start]! := by
          cases array
          rfl
        rw [same, getElem!_pos array.data start inside, Array.getElem_toList]
      rw [ih, List.drop_eq_getElem_cons short, head, List.reverse_cons, List.append_assoc]
      rfl
  | case2 start done outside =>
      have long : array.data.toList.length ≤ start := by
        simpa using Nat.le_of_not_lt outside
      rw [List.drop_eq_nil_of_le long, List.append_nil]

theorem toList_toByteArray (bytes : Bytes) : bytes.toByteArray.toList = bytes := by
  rw [ByteArray.toList, toList_loop, List.toList_data_toByteArray]
  rfl

/-! ## Characters -/

def encode (chars : List Char) : Bytes :=
  chars.flatMap String.utf8EncodeChar

@[simp]
theorem encode_nil : encode [] = [] := rfl

theorem encode_cons (c : Char) (chars : List Char) :
    encode (c :: chars) = String.utf8EncodeChar c ++ encode chars :=
  List.flatMap_cons

theorem encode_append (chars others : List Char) :
    encode (chars ++ others) = encode chars ++ encode others :=
  List.flatMap_append

theorem bytes_ofList (chars : List Char) : bytes (String.ofList chars) = encode chars := by
  unfold bytes
  rw [String.toUTF8_eq_toByteArray, String.toByteArray_ofList]
  exact toList_toByteArray _

/-- The bytes of a text are read as the text. -/
theorem utf8?_encode (text : String) : utf8? (encode text.toList) = some text := by
  have same : (encode text.toList).toByteArray = text.toByteArray :=
    String.utf8Encode_toList
  unfold utf8? String.fromUTF8?
  rw [dif_pos (same ▸ text.isValidUTF8)]
  exact congrArg some (String.toByteArray_inj.mp same)

/-! ## The ASCII range -/

theorem utf8EncodeChar_of_ascii {c : Char} (ascii : c.toNat < 0x80) :
    String.utf8EncodeChar c = [UInt8.ofNat c.toNat] := by
  unfold String.utf8EncodeChar
  rw [if_pos]
  · rfl
  · show c.toNat ≤ 127
    omega

theorem encode_of_ascii {chars : List Char} (ascii : ∀ c ∈ chars, c.toNat < 0x80) :
    encode chars = chars.map fun c => UInt8.ofNat c.toNat := by
  induction chars with
  | nil =>
      rfl
  | cons c rest ih =>
      rcases List.forall_mem_cons.mp ascii with ⟨first, others⟩
      rw [encode_cons, utf8EncodeChar_of_ascii first, ih others]
      rfl

theorem le_of_mem_utf8EncodeChar {c : Char} (wide : 0x80 ≤ c.toNat) {b : UInt8}
    (mem : b ∈ String.utf8EncodeChar c) : 0x80 ≤ b.toNat := by
  have long : ¬c.val.toNat ≤ 127 := by
    show ¬c.toNat ≤ 127
    omega
  unfold String.utf8EncodeChar at mem
  simp only [long, if_false] at mem
  split at mem
  · simp only [List.mem_cons, List.not_mem_nil, or_false] at mem
    rcases mem with rfl | rfl <;> rw [UInt8.toNat_ofNat'] <;> omega
  · split at mem
    · simp only [List.mem_cons, List.not_mem_nil, or_false] at mem
      rcases mem with rfl | rfl | rfl <;> rw [UInt8.toNat_ofNat'] <;> omega
    · simp only [List.mem_cons, List.not_mem_nil, or_false] at mem
      rcases mem with rfl | rfl | rfl | rfl <;> rw [UInt8.toNat_ofNat'] <;> omega

theorem toNat_of_mem_utf8EncodeChar {c : Char} {b : UInt8} (mem : b ∈ String.utf8EncodeChar c) :
    b.toNat = c.toNat ∨ 0x80 ≤ b.toNat := by
  by_cases ascii : c.toNat < 0x80
  · rw [utf8EncodeChar_of_ascii ascii, List.mem_singleton] at mem
    apply Or.inl
    rw [mem, UInt8.toNat_ofNat']
    omega
  · exact .inr (le_of_mem_utf8EncodeChar (Nat.not_lt.mp ascii) mem)

end Text
end MissionControl
