import MissionControl.Json.Printer
import MissionControl.Proofs.Json.Lexing
import MissionControl.Proofs.Text.Encoding

/-!
# Strings and integers as they are written

A string is written so that reading it up to its closing quote gives it back, whatever characters
it holds.  An integer is written by its digits, and as long as nothing follows that a number could
go on with, they are all that is read of it.
-/

namespace MissionControl
namespace Json

open Text (encode)

/-! ## Strings -/

def piecesOf (c : Char) : List Piece :=
  if c.toNat < 0x20 ∧ c ∉ ['\x08', '\x0c', '\n', '\r', '\t'] then [.unit c.toNat]
  else (String.utf8EncodeChar c).map .byte

theorem pieces_plain {b : UInt8} (quote : b ≠ 0x22) (slash : b ≠ 0x5c) (visible : ¬b < 0x20)
    (done : List Piece) (rest : Bytes) :
    pieces done (b :: rest) = pieces (.byte b :: done) rest := by
  rw [pieces]
  · rw [if_neg slash, if_neg visible]
  · exact quote
  · intro _ _ _ _ _ same
    exact absurd same slash
  · intro _ _ same
    exact absurd same slash

theorem pieces_plains {bytes : Bytes}
    (plain : ∀ b ∈ bytes, b ≠ 0x22 ∧ b ≠ 0x5c ∧ ¬b < 0x20) (done : List Piece) (rest : Bytes) :
    pieces done (bytes ++ rest) = pieces ((bytes.map .byte).reverse ++ done) rest := by
  induction bytes generalizing done with
  | nil =>
      rfl
  | cons b others ih =>
      rcases List.forall_mem_cons.mp plain with ⟨⟨quote, slash, visible⟩, plain⟩
      rw [List.cons_append, pieces_plain quote slash visible, ih plain]
      simp

theorem hexUnit?_numbered : ∀ n < 0x20, hexUnit? 0x30 0x30
    (UInt8.ofNat (hexDigit (n / 16)).toNat) (UInt8.ofNat (hexDigit (n % 16)).toNat) = some n := by
  decide

theorem hexDigit_ascii : ∀ n < 0x10, (hexDigit n).toNat < 0x80 := by
  decide

theorem encode_numbered {n : Nat} (small : n < 0x20) :
    encode ['\\', 'u', '0', '0', hexDigit (n / 16), hexDigit (n % 16)] =
      [0x5c, 0x75, 0x30, 0x30, UInt8.ofNat (hexDigit (n / 16)).toNat,
        UInt8.ofNat (hexDigit (n % 16)).toNat] := by
  rw [Text.encode_of_ascii]
  · rfl
  · intro c mem
    simp only [List.mem_cons, List.not_mem_nil, or_false] at mem
    rcases mem with rfl | rfl | rfl | rfl | rfl | rfl
    · decide
    · decide
    · decide
    · decide
    · exact hexDigit_ascii _ (by omega)
    · exact hexDigit_ascii _ (by omega)

theorem pieces_letter {e b : UInt8} (unit : e ≠ 0x75) (letter : escaped? e = some b)
    (done : List Piece) (rest : Bytes) :
    pieces done (0x5c :: e :: rest) = pieces (.byte b :: done) rest := by
  rw [pieces]
  · rw [if_neg unit, letter]
  · intro _ _ _ _ _ same
    exact absurd same unit

theorem pieces_escape (c : Char) (done : List Piece) (rest : Bytes) :
    pieces done (encode (escape c) ++ rest) = pieces ((piecesOf c).reverse ++ done) rest := by
  -- seven characters have a letter, the other controls a number, and the rest stand for themselves
  fun_cases escape c with
  | case1 same | case2 _ same | case3 _ _ same | case4 _ _ _ same | case5 _ _ _ _ same
  | case6 _ _ _ _ _ same | case7 _ _ _ _ _ _ same =>
      subst same
      exact pieces_letter (by decide) rfl done rest
  | case8 _ _ b f n r t small =>
      have numbered : piecesOf c = [.unit c.toNat] := by
        simp [piecesOf, small, b, f, n, r, t]
      rw [encode_numbered small, numbered]
      show pieces done (_ :: _ :: _ :: _ :: _ :: _ :: rest) = _
      rw [pieces, hexUnit?_numbered _ small]
      rfl
  | case9 quote slash _ _ _ _ _ visible =>
      have own : piecesOf c = (String.utf8EncodeChar c).map .byte := by
        simp [piecesOf, visible]
      rw [own, ← pieces_plains, Text.encode_cons]
      · simp
      · intro b mem
        have own := Text.toNat_of_mem_utf8EncodeChar mem
        have unquoted : c.toNat ≠ 0x22 := fun same => quote (Char.toNat_inj.mp same)
        have unslashed : c.toNat ≠ 0x5c := fun same => slash (Char.toNat_inj.mp same)
        rw [UInt8.lt_iff_toNat_lt, ne_eq, ne_eq, ← UInt8.toNat_inj, ← UInt8.toNat_inj]
        simp only [UInt8.reduceToNat]
        omega

theorem pieces_escapes (chars : List Char) (done : List Piece) (rest : Bytes) :
    pieces done (encode (chars.flatMap escape) ++ rest) =
      pieces ((chars.flatMap piecesOf).reverse ++ done) rest := by
  induction chars generalizing done with
  | nil =>
      rfl
  | cons c others ih =>
      rw [List.flatMap_cons, Text.encode_append, List.append_assoc, pieces_escape, ih,
        List.flatMap_cons, List.reverse_append, List.append_assoc]

theorem contentBytes_bytes (fault : Fault) (bytes done : Bytes) (rest : List Piece) :
    contentBytes fault done (bytes.map .byte ++ rest) =
      contentBytes fault (bytes.reverse ++ done) rest := by
  induction bytes generalizing done with
  | nil =>
      rfl
  | cons b others ih =>
      simp only [List.map_cons, List.cons_append, contentBytes, ih, List.reverse_cons,
        List.append_assoc, List.nil_append]

theorem contentBytes_piecesOf (fault : Fault) (c : Char) (done : Bytes) (rest : List Piece) :
    contentBytes fault done (piecesOf c ++ rest) =
      contentBytes fault ((String.utf8EncodeChar c).reverse ++ done) rest := by
  unfold piecesOf
  split
  · rename_i numbered
    have small := numbered.1
    rw [List.singleton_append, contentBytes.eq_def]
    dsimp only
    rw [if_neg (by omega), if_neg (by omega)]
    unfold encoded
    rw [Char.ofNat_toNat]
  · exact contentBytes_bytes fault _ done rest

theorem contentBytes_pieces (fault : Fault) (chars : List Char) (done : Bytes) :
    contentBytes fault done (chars.flatMap piecesOf) = .ok (done.reverse ++ encode chars) := by
  induction chars generalizing done with
  | nil =>
      simp [contentBytes]
  | cons c others ih =>
      rw [List.flatMap_cons, contentBytes_piecesOf, ih, Text.encode_cons]
      simp

theorem stringToken_textChars (text : String) (rest : Bytes) :
    stringToken (encode (text.toList.flatMap escape ++ ['"']) ++ rest) =
      (.text (.ok text), rest) := by
  have read : pieces [] (encode (text.toList.flatMap escape ++ ['"']) ++ rest) =
      (text.toList.flatMap piecesOf, .ok rest) := by
    rw [Text.encode_append, List.append_assoc, pieces_escapes, List.append_nil]
    show pieces _ (0x22 :: rest) = _
    rw [pieces, List.reverse_reverse]
  have told : content (text.toList.flatMap piecesOf) = .ok text := by
    unfold content
    rw [contentBytes_pieces, List.reverse_nil, List.nil_append]
    simp only [Text.utf8?_encode]
  unfold stringToken
  rw [read]
  simp only [told]

theorem tokens_textChars (text : String) (rest : Bytes) :
    tokens (encode (textChars text) ++ rest) = .text (.ok text) :: tokens rest := by
  show tokens (0x22 :: (encode (text.toList.flatMap escape ++ ['"']) ++ rest)) = _
  rw [tokens_cons rfl]
  show (stringToken _).1 :: tokens (stringToken _).2 = _
  rw [stringToken_textChars]

/-! ## Digits -/

def digitValue (c : Char) : Nat := c.toNat - 0x30

def digitValues (n : Nat) : List Nat :=
  (Nat.toDigits 10 n).map digitValue

theorem digitValue_digitChar : ∀ d < 10, digitValue (Nat.digitChar d) = d := by
  decide

theorem digitValues_of_lt {n : Nat} (small : n < 10) : digitValues n = [n] := by
  unfold digitValues
  rw [Nat.toDigits_of_lt_base small, List.map_singleton, digitValue_digitChar n small]

theorem digitValues_of_le {n : Nat} (large : 10 ≤ n) :
    digitValues n = digitValues (n / 10) ++ [n % 10] := by
  unfold digitValues
  rw [Nat.toDigits_of_base_le (by decide) large, List.map_append, List.map_singleton,
    digitValue_digitChar _ (Nat.mod_lt n (by decide))]

theorem exists_leading_digitValues {n : Nat} (positive : 0 < n) :
    ∃ d rest, digitValues n = d :: rest ∧ 0 < d := by
  induction n using Nat.strongRecOn with
  | ind n ih =>
      by_cases small : n < 10
      · exact ⟨n, [], digitValues_of_lt small, positive⟩
      · have large := Nat.le_of_not_lt small
        rcases ih (n / 10) (by omega) (by omega) with ⟨d, rest, digits, leading⟩
        refine ⟨d, rest ++ [n % 10], ?_, leading⟩
        rw [digitValues_of_le large, digits]
        rfl

theorem accumulate_concat {significand found d : Nat} {digits : List Nat}
    (read : Numeral.accumulate significand digits = (found, []))
    (fits : 10 * found + d ≤ Numeral.significandLimit) :
    Numeral.accumulate significand (digits ++ [d]) = (10 * found + d, []) := by
  induction digits generalizing significand with
  | nil =>
      cases read
      rw [List.nil_append, Numeral.accumulate, if_neg (Nat.not_lt.mpr fits), Numeral.accumulate]
  | cons first rest ih =>
      rw [Numeral.accumulate] at read
      split at read
      · cases read
      · rename_i within
        rw [List.cons_append, Numeral.accumulate, if_neg within]
        exact ih read

theorem accumulate_digitValues {n : Nat} (fits : n ≤ Numeral.significandLimit) :
    Numeral.accumulate 0 (digitValues n) = (n, []) := by
  induction n using Nat.strongRecOn with
  | ind n ih =>
      by_cases small : n < 10
      · rw [digitValues_of_lt small, Numeral.accumulate, if_neg (by omega), Numeral.accumulate]
        simp
      · have whole : 10 * (n / 10) + n % 10 = n := Nat.div_add_mod n 10
        have shorter := ih (n / 10) (by omega) (by omega)
        rw [digitValues_of_le (Nat.le_of_not_lt small)]
        simpa only [whole] using accumulate_concat (d := n % 10) shorter (by omega)

def Numeral.ofInt (n : Int) : Numeral :=
  { negative := n < 0, whole := digitValues n.natAbs, places := none, power := none }

theorem Numeral.value_ofInt {n : Int} (least : -9223372036854775808 ≤ n)
    (greatest : n ≤ 18446744073709551615) : (ofInt n).value = .ok (.integer n) := by
  have read : accumulate 0 (digitValues n.natAbs) = (n.natAbs, []) := by
    apply accumulate_digitValues
    unfold significandLimit
    omega
  unfold value ofInt
  simp only [read]
  by_cases negative : n < 0
  · have same : -(n.natAbs : Int) = n := by
      omega
    have fits : ¬(n.natAbs = 0 ∨ 9223372036854775808 < n.natAbs) := by
      omega
    simp only [negative, List.isEmpty_nil, decide_true, Bool.not_true, Bool.false_eq_true, if_false,
      fits, same]
  · have same : (n.natAbs : Int) = n := by
      omega
    simp only [negative, List.isEmpty_nil, decide_false, Bool.not_true, Bool.not_false,
      Bool.false_eq_true, if_false, if_true, same]

/-! ## Integers -/

def EndsNumber (rest : Bytes) : Prop :=
  ∀ b ∈ rest.head?, isDigit b = false ∧ b ≠ 0x2e ∧ b ≠ 0x65 ∧ b ≠ 0x45

theorem toNat_of_isDigit {c : Char} (digit : c.isDigit = true) : 48 ≤ c.toNat ∧ c.toNat ≤ 57 := by
  simpa [Char.isDigit, UInt32.le_iff_toNat_le] using digit

theorem isDigit_of_char {c : Char} (digit : c.isDigit = true) :
    isDigit (UInt8.ofNat c.toNat) = true := by
  have range := toNat_of_isDigit digit
  unfold isDigit
  rw [Bool.and_eq_true, decide_eq_true_eq, decide_eq_true_eq, UInt8.le_iff_toNat_le,
    UInt8.le_iff_toNat_le, UInt8.toNat_ofNat']
  simp only [UInt8.reduceToNat]
  omega

theorem isDigit_of_mem_toDigits {n : Nat} : ∀ c ∈ Nat.toDigits 10 n, c.isDigit = true := by
  intro c mem
  exact Nat.isDigit_of_mem_toDigits (by decide) (by decide) mem

theorem digitRun_append {digits : List Char} (plain : ∀ c ∈ digits, c.isDigit = true)
    {rest : Bytes} (ends : EndsNumber rest) :
    digitRun (encode digits ++ rest) = (digits.map digitValue, rest) := by
  have ascii : ∀ c ∈ digits, c.toNat < 0x80 := by
    intro c mem
    have range := toNat_of_isDigit (plain c mem)
    omega
  have inside : ∀ b ∈ encode digits, isDigit b = true := by
    rw [Text.encode_of_ascii ascii]
    intro b mem
    rcases List.mem_map.mp mem with ⟨c, own, rfl⟩
    exact isDigit_of_char (plain c own)
  have outside : rest.takeWhile isDigit = [] ∧ rest.dropWhile isDigit = rest := by
    cases rest with
    | nil =>
        exact ⟨rfl, rfl⟩
    | cons b others =>
        have stop := (ends b rfl).1
        constructor
        · rw [List.takeWhile_cons_of_neg (by simp [stop])]
        · rw [List.dropWhile_cons_of_neg (by simp [stop])]
  unfold digitRun
  rw [List.takeWhile_append_of_pos inside, List.dropWhile_append_of_pos inside, outside.1,
    outside.2, List.append_nil, Text.encode_of_ascii ascii, List.map_map]
  refine Prod.ext (List.map_congr_left ?_) rfl
  intro c mem
  show (UInt8.ofNat c.toNat).toNat - 0x30 = c.toNat - 0x30
  rw [UInt8.toNat_ofNat', Nat.mod_eq_of_lt (Nat.lt_trans (ascii c mem) (by decide))]

theorem places_of_endsNumber {rest : Bytes} (ends : EndsNumber rest) :
    places rest = .ok (none, rest) := by
  unfold places
  split
  · exact absurd rfl (ends _ rfl).2.1
  · rfl

theorem power_of_endsNumber {rest : Bytes} (ends : EndsNumber rest) :
    power rest = .ok (none, rest) := by
  unfold power
  split
  · rcases ends _ rfl with ⟨_, _, small, capital⟩
    rw [if_neg (by simp [small, capital])]
  · rfl

theorem numberToken_toDigits (negative : Bool) (n : Nat) {rest : Bytes} (ends : EndsNumber rest) :
    numberToken negative (encode (Nat.toDigits 10 n) ++ rest) =
      (.number { negative := negative, whole := digitValues n, places := none, power := none },
        rest) := by
  have run : digitRun (encode (Nat.toDigits 10 n) ++ rest) = (digitValues n, rest) :=
    digitRun_append isDigit_of_mem_toDigits ends
  unfold numberToken
  rw [run]
  dsimp only
  split
  · rename_i none
    exact absurd (List.map_eq_nil_iff.mp none) Nat.toDigits_ne_nil
  · rename_i d others zero
    by_cases positive : 0 < n
    · rcases exists_leading_digitValues positive with ⟨first, digits, same, leading⟩
      rw [same] at zero
      cases zero
      cases leading
    · rw [digitValues_of_lt (by omega)] at zero
      cases zero
  · rw [places_of_endsNumber ends]
    dsimp only
    rw [power_of_endsNumber ends]

theorem tokenAt_digit {b : UInt8} (digit : isDigit b = true) (rest : Bytes) :
    tokenAt b rest = numberToken false (b :: rest) := by
  fun_cases tokenAt b rest with
  | case9 =>
      rfl
  | case10 =>
      contradiction
  | case11 =>
      contradiction
  | case12 =>
      contradiction
  | case13 =>
      contradiction
  | _ =>
      subst_vars
      cases digit

theorem isBlank_of_isDigit {b : UInt8} (digit : isDigit b = true) : isBlank b = false := by
  rw [Bool.eq_false_iff]
  intro blank
  simp only [isBlank, Bool.or_eq_true, decide_eq_true_eq] at blank
  rcases blank with ((rfl | rfl) | rfl) | rfl <;> cases digit

theorem tokens_digits {digits : List Char} (plain : ∀ c ∈ digits, c.isDigit = true)
    (some : digits ≠ []) (rest : Bytes) :
    tokens (encode digits ++ rest) =
      (numberToken false (encode digits ++ rest)).1 ::
        tokens (numberToken false (encode digits ++ rest)).2 := by
  cases digits with
  | nil =>
      exact absurd rfl some
  | cons c others =>
      have digit := plain c List.mem_cons_self
      have range := toNat_of_isDigit digit
      have first := isDigit_of_char digit
      rw [Text.encode_cons, Text.utf8EncodeChar_of_ascii (by omega)]
      show tokens (_ :: (encode others ++ rest)) = _
      rw [tokens_cons (isBlank_of_isDigit first), tokenAt_digit first]
      rfl

theorem tokens_integer (n : Int) {rest : Bytes} (ends : EndsNumber rest) :
    tokens (encode (toString n).toList ++ rest) = .number (.ofInt n) :: tokens rest := by
  cases n with
  | ofNat m =>
      show tokens (encode m.repr.toList ++ rest) = _
      rw [Nat.toList_repr, tokens_digits isDigit_of_mem_toDigits Nat.toDigits_ne_nil,
        numberToken_toDigits false m ends]
      rfl
  | negSucc m =>
      have signed : encode (toString (Int.negSucc m)).toList =
          0x2d :: encode (Nat.toDigits 10 m.succ) := by
        show encode ("-" ++ m.succ.repr).toList = _
        rw [String.toList_append, Nat.toList_repr]
        rfl
      rw [signed]
      show tokens (0x2d :: (encode (Nat.toDigits 10 m.succ) ++ rest)) = _
      rw [tokens_cons rfl]
      show (numberToken true _).1 :: tokens (numberToken true _).2 = _
      rw [numberToken_toDigits true m.succ ends]
      unfold Numeral.ofInt
      rw [decide_eq_true (Int.negSucc_lt_zero m)]
      rfl

end Json
end MissionControl
