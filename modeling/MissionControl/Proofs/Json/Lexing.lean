import MissionControl.Json.Token

/-!
# Cutting a text into tokens

Every token takes at least the byte that it starts with, so the bytes of a text bound its tokens.
A text is therefore cut into its first token and the tokens of what follows, blanks left out.
-/

namespace MissionControl
namespace Json

/-! ## Tokens take bytes -/

theorem length_pieces {done inside : List Piece} {input rest : Bytes}
    (h : pieces done input = (inside, .ok rest)) : rest.length ≤ input.length := by
  fun_induction pieces done input with
  | case1 done =>
      cases h
  | case2 done after =>
      cases h
      simp
  | case3 done a b c d after unit found ih =>
      have := ih h
      simp only [List.length_cons]
      omega
  | case4 =>
      cases h
  | case5 =>
      cases h
  | case6 done e after _ _ b found ih =>
      have := ih h
      simp only [List.length_cons]
      omega
  | case7 =>
      cases h
  | case8 =>
      cases h
  | case9 =>
      cases h
  | case10 done b after _ _ _ _ _ ih =>
      have := ih h
      simp only [List.length_cons]
      omega

theorem length_stringToken (input : Bytes) : (stringToken input).2.length ≤ input.length := by
  unfold stringToken
  split
  · rename_i inside rest split
    exact length_pieces split
  · exact Nat.zero_le _

theorem length_digitRun (input : Bytes) : (digitRun input).2.length ≤ input.length :=
  (List.dropWhile_sublist isDigit).length_le

theorem length_places {input rest : Bytes} {told : Option (List Nat)}
    (h : places input = .ok (told, rest)) : rest.length ≤ input.length := by
  unfold places at h
  split at h
  · rename_i after
    dsimp only at h
    split at h
    · cases h
    · cases h
      have := length_digitRun after
      simp only [List.length_cons]
      omega
  · cases h
    exact Nat.le_refl _

theorem length_power {input rest : Bytes} {told : Option Int}
    (h : power input = .ok (told, rest)) : rest.length ≤ input.length := by
  have ofRun {told : Option Int} {signless : Bytes} (value : Option Int)
      (h : (if (digitRun signless).1.isEmpty then .error (lacksDigit signless)
        else .ok (value, (digitRun signless).2)) = Except.ok (told, rest)) :
      rest.length ≤ signless.length := by
    split at h
    · cases h
    · cases h
      exact length_digitRun signless
  unfold power at h
  split at h
  · rename_i b after
    rw [List.length_cons]
    split at h
    · dsimp only at h
      split at h
      · exact Nat.le_succ_of_le (Nat.le_succ_of_le (ofRun _ h))
      · exact Nat.le_succ_of_le (Nat.le_succ_of_le (ofRun _ h))
      · exact Nat.le_succ_of_le (ofRun _ h)
    · cases h
      exact Nat.le_refl _
  · cases h
    exact Nat.le_refl _

theorem length_numberToken (negative : Bool) (input : Bytes) :
    (numberToken negative input).2.length ≤ (digitRun input).2.length := by
  unfold numberToken
  dsimp only
  split
  · exact Nat.zero_le _
  · exact Nat.zero_le _
  · split
    · exact Nat.zero_le _
    · rename_i told rest split
      have first := length_places split
      split
      · exact Nat.zero_le _
      · rename_i raised after split'
        exact Nat.le_trans (length_power split') first

theorem length_wordToken (token : Token) (letters input : Bytes) :
    (wordToken token letters input).2.length ≤ input.length := by
  fun_induction wordToken token letters input with
  | case1 =>
      exact Nat.le_refl _
  | case2 =>
      exact Nat.zero_le _
  | case3 expected letters rest ih =>
      exact Nat.le_trans ih (Nat.le_succ _)
  | case4 =>
      exact Nat.zero_le _

theorem length_tokenAt (b : UInt8) (rest : Bytes) : (tokenAt b rest).2.length ≤ rest.length := by
  fun_cases tokenAt b rest with
  | case7 =>
      exact length_stringToken rest
  | case8 =>
      exact Nat.le_trans (length_numberToken true rest) (length_digitRun rest)
  | case9 _ _ _ _ _ _ _ _ digit =>
      have run : (digitRun (b :: rest)).2 = (digitRun rest).2 := by
        simp [digitRun, digit]
      have bound := length_numberToken false (b :: rest)
      rw [run] at bound
      exact Nat.le_trans bound (length_digitRun rest)
  | case10 =>
      exact length_wordToken _ _ rest
  | case11 =>
      exact length_wordToken _ _ rest
  | case12 =>
      exact length_wordToken _ _ rest
  | case13 =>
      exact Nat.zero_le _
  | _ =>
      exact Nat.le_refl _

/-! ## One token after another -/

theorem tokensFrom_done (fuel : Nat) (done : List Token) (input : Bytes) :
    tokensFrom fuel done input = done.reverse ++ tokensFrom fuel [] input := by
  induction fuel generalizing input done with
  | zero =>
      simp [tokensFrom]
  | succ fuel ih =>
      cases input with
      | nil =>
          simp [tokensFrom]
      | cons b rest =>
          simp only [tokensFrom]
          split
          · exact ih done rest
          · rw [ih (_ :: done), ih [_]]
            simp

/-- The bytes left bound the tokens to come, and any greater bound will do. -/
theorem tokensFrom_eq_of_le {fuel other : Nat} {input : Bytes} (enough : input.length ≤ fuel)
    (enoughOther : input.length ≤ other) :
    tokensFrom fuel [] input = tokensFrom other [] input := by
  -- a token may take many bytes, so it is the bound, not the input, that shrinks by one each time
  induction fuel generalizing other input with
  | zero =>
      have none : input = [] := List.eq_nil_of_length_eq_zero (Nat.le_zero.mp enough)
      subst none
      cases other <;> rfl
  | succ fuel ih =>
      cases input with
      | nil =>
          cases other <;> rfl
      | cons b rest =>
          cases other with
          | zero =>
              cases enoughOther
          | succ other =>
              rw [List.length_cons, Nat.add_le_add_iff_right] at enough enoughOther
              have short := length_tokenAt b rest
              simp only [tokensFrom]
              split
              · exact ih enough enoughOther
              · rw [tokensFrom_done fuel, tokensFrom_done other,
                  ih (Nat.le_trans short enough) (Nat.le_trans short enoughOther)]

@[simp]
theorem tokens_nil : tokens [] = [] := rfl

theorem tokens_cons {b : UInt8} (dark : isBlank b = false) (rest : Bytes) :
    tokens (b :: rest) = (tokenAt b rest).1 :: tokens (tokenAt b rest).2 := by
  show tokensFrom (rest.length + 1) [] (b :: rest) = _
  rw [tokensFrom, if_neg (by simp [dark])]
  dsimp only
  rw [tokensFrom_done]
  exact congrArg _ (tokensFrom_eq_of_le (length_tokenAt b rest) (Nat.le_refl _))

end Json
end MissionControl
