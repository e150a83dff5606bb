import OnboardStorage.Text.Json.Quoted

/-!
# Quoted strings are read back

What is written between quotation marks is read back as it was, whatever
characters it holds.  Reading takes two turns.  The codes of a written
character are its code point alone, however it is escaped; and since no code
point is half a surrogate pair, joining pairs leaves the codes as they are.
-/

namespace OnboardStorage.Text.Json

/-! ## Characters of codes -/

@[simp]
theorem scalar?_toNat (char : Char) : scalar? char.toNat = some char := by
  have valid : char.toNat.isValidChar := char.valid
  rw [scalar?, dif_pos valid]
  rfl

/-- No character is half a surrogate pair. -/
theorem isLeadingSurrogate_toNat (char : Char) :
    isLeadingSurrogate char.toNat = false := by
  have valid : char.toNat.isValidChar := char.valid
  unfold isLeadingSurrogate
  rcases valid with small | ⟨large, _⟩
  · rw [decide_eq_false (Nat.not_le.mpr small), Bool.false_and]
  · have past : ¬ char.toNat < 0xDC00 := by omega
    rw [decide_eq_false past, Bool.and_false]

theorem joinPairs_cons_of_char (char : Char) (next : Nat) (rest : List Nat) :
    joinPairs (char.toNat :: next :: rest) =
      joined? (some char) (joinPairs (next :: rest)) := by
  rw [joinPairs, isLeadingSurrogate_toNat, Bool.false_and, if_neg Bool.false_ne_true,
    scalar?_toNat]

theorem joinPairs_map_toNat (chars : List Char) :
    joinPairs (chars.map Char.toNat) = some chars := by
  induction chars with
  | nil => rw [List.map_nil, joinPairs]
  | cons char rest ih =>
      cases rest with
      | nil =>
          rw [List.map_cons, List.map_nil, joinPairs, scalar?_toNat]
          rfl
      | cons next others =>
          rw [List.map_cons] at ih
          rw [List.map_cons, List.map_cons, joinPairs_cons_of_char, ih]
          rfl

/-! ## Codes of characters -/

/-- Read one code in front of those of a text. -/
def withCode (code : Nat) (read : Option (List Nat × List Char)) :
    Option (List Nat × List Char) :=
  read.map fun given => (code :: given.1, given.2)

theorem hexValue?_hexDigit {value : Nat} (small : value < 16) :
    hexValue? (hexDigit value) = some value := by
  have all : ∀ value < 16, hexValue? (hexDigit value) = some value := by decide
  exact all value small

theorem hexNumber?_pair {value : Nat} (small : value < 256) :
    hexNumber? ['0', '0', hexDigit (value / 16), hexDigit (value % 16)] =
      some value := by
  have high : hexValue? (hexDigit (value / 16)) = some (value / 16) :=
    hexValue?_hexDigit (by omega)
  have low : hexValue? (hexDigit (value % 16)) = some (value % 16) :=
    hexValue?_hexDigit (by omega)
  have zero : hexValue? '0' = some 0 := rfl
  simp only [hexNumber?, List.foldl_cons, List.foldl_nil, zero, high, low]
  exact congrArg some (by omega)

/-- An escaped character that has a letter is read as itself. -/
theorem codes_letter {letter char : Char} (notNumbered : letter ≠ 'u')
    (stands : escaped? letter = some char) (rest : List Char) :
    codes ('\\' :: letter :: rest) = withCode char.toNat (codes rest) := by
  rw [codes, stands]
  · cases codes rest <;> rfl
  · rintro a b c d after rfl
    exact absurd rfl notNumbered

theorem codes_escape (char : Char) (rest : List Char) :
    codes (escape char ++ rest) = withCode char.toNat (codes rest) := by
  unfold escape
  split
  · exact codes_letter (by decide) rfl rest
  · exact codes_letter (by decide) rfl rest
  · exact codes_letter (by decide) rfl rest
  · exact codes_letter (by decide) rfl rest
  · exact codes_letter (by decide) rfl rest
  · exact codes_letter (by decide) rfl rest
  · exact codes_letter (by decide) rfl rest
  · rename_i notQuote notBackslash _ _ _ _ _
    split
    · rename_i control
      have small : char.toNat < 256 := Nat.lt_trans control (by decide)
      simp only [List.cons_append, List.nil_append, codes, hexNumber?_pair small]
      cases codes rest <;> rfl
    · rename_i plain
      rw [List.singleton_append, codes, if_neg plain]
      · cases codes rest <;> rfl
      · exact notQuote
      · intro _ _ _ _ _ isBackslash _
        exact notBackslash isBackslash
      · intro _ _ isBackslash _
        exact notBackslash isBackslash

theorem codes_flatMap_escape (chars rest : List Char) :
    codes (chars.flatMap escape ++ '"' :: rest) = some (chars.map Char.toNat, rest) := by
  induction chars with
  | nil => rfl
  | cons char others ih =>
      rw [List.flatMap_cons, List.append_assoc, codes_escape, ih]
      rfl

/-- Every text is read back from between its quotation marks. -/
theorem unquote_quoted (text : String) (rest : List Char) :
    unquote (text.toList.flatMap escape ++ '"' :: rest) = some (some text, rest) := by
  rw [unquote, codes_flatMap_escape, Option.map_some, joinPairs_map_toNat,
    Option.map_some, String.ofList_toList]

end OnboardStorage.Text.Json
