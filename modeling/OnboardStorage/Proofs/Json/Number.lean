import OnboardStorage.Text.Json.Reading
import OnboardStorage.Text.Json.Writing

/-!
# Numbers are read back

Digits are read as far as they go, so a written number is read back only if no
digit, point or exponent stands behind it.  Whole numbers are written without a
leading zero, which the reader insists on.
-/

namespace OnboardStorage.Text

/-- The longest run at the front of a text ends where the text goes on otherwise. -/
theorem span_append {holds : Char → Bool} {read rest : List Char}
    (all : ∀ char ∈ read, holds char = true)
    (ends : ∀ char ∈ rest.head?, holds char = false) :
    (read ++ rest).takeWhile holds = read ∧ (read ++ rest).dropWhile holds = rest := by
  have stops : rest.takeWhile holds = [] ∧ rest.dropWhile holds = rest := by
    cases rest with
    | nil => exact ⟨rfl, rfl⟩
    | cons char others =>
        have isNot := ends char rfl
        simp [isNot]
  rw [List.takeWhile_append_of_pos all, List.dropWhile_append_of_pos all, stops.1, stops.2,
    List.append_nil]
  exact ⟨rfl, rfl⟩

namespace Json

/-- A text that no number goes on into. -/
def EndsNumber (rest : List Char) : Prop :=
  ∀ char ∈ rest.head?, char.isDigit = false ∧ char ≠ '.' ∧ char ≠ 'e' ∧ char ≠ 'E'

theorem endsNumber_nil : EndsNumber [] := by
  intro char first
  cases first

theorem endsNumber_cons {char : Char} {rest : List Char}
    (ends : char.isDigit = false ∧ char ≠ '.' ∧ char ≠ 'e' ∧ char ≠ 'E') :
    EndsNumber (char :: rest) := by
  intro first equal
  cases equal
  exact ends

/-! ## Digits -/

theorem isDigit_of_mem_decimalDigits {number : Nat} {char : Char}
    (member : char ∈ decimalDigits number) : char.isDigit = true :=
  Nat.isDigit_of_mem_toDigits (by decide) (by decide) member

theorem decimalDigits_ne_nil (number : Nat) : decimalDigits number ≠ [] :=
  Nat.toDigits_ne_nil

theorem head?_decimalDigits_ne_zero {number : Nat} (positive : 0 < number) :
    (decimalDigits number).head? ≠ some '0' := by
  induction number using Nat.strongRecOn with
  | _ number ih =>
      rcases Nat.lt_or_ge number 10 with small | large
      · have all : ∀ number < 10, 0 < number → (decimalDigits number).head? ≠ some '0' := by
          decide
        exact all number small positive
      · have front := ih (number / 10) (by omega) (by omega)
        obtain ⟨first, others, equal⟩ :=
          List.exists_cons_of_ne_nil (decimalDigits_ne_nil (number / 10))
        have split_eq : decimalDigits number =
            decimalDigits (number / 10) ++ [Nat.digitChar (number % 10)] :=
          Nat.toDigits_of_base_le (by decide) large
        rw [equal] at front
        rw [split_eq, equal]
        exact front

theorem digits_append {read rest : List Char}
    (all : ∀ char ∈ read, char.isDigit = true)
    (ends : ∀ char ∈ rest.head?, char.isDigit = false) :
    digits (read ++ rest) = (read, rest) := by
  rw [digits, (span_append all ends).1, (span_append all ends).2]

theorem digits_decimalDigits (number : Nat) {rest : List Char} (ends : EndsNumber rest) :
    digits (decimalDigits number ++ rest) = (decimalDigits number, rest) :=
  digits_append (fun _ => isDigit_of_mem_decimalDigits)
    fun char first => (ends char first).1

/-- Written digits have no leading zero, unless they are zero alone. -/
theorem leadingZero_decimalDigits (number : Nat) :
    ((decimalDigits number).isEmpty ||
      ((decimalDigits number).head? == some '0' &&
        (decimalDigits number).length != 1)) = false := by
  have nonempty : (decimalDigits number).isEmpty = false :=
    List.isEmpty_eq_false_iff.mpr (decimalDigits_ne_nil number)
  rw [nonempty, Bool.false_or]
  rcases Nat.eq_zero_or_pos number with rfl | positive
  · rfl
  · rw [beq_eq_false_iff_ne.mpr (head?_decimalDigits_ne_zero positive), Bool.false_and]

/-! ## Whole numbers -/

theorem fraction_of_ends {rest : List Char} (ends : EndsNumber rest) :
    fraction rest = some ([], rest) := by
  unfold fraction
  split
  · rename_i after
    exact absurd rfl (ends '.' rfl).2.1
  · rfl

theorem exponent?_of_ends {rest : List Char} (ends : EndsNumber rest) :
    exponent? rest = some (none, rest) := by
  cases rest with
  | nil => rfl
  | cons char others =>
      obtain ⟨-, -, lower, upper⟩ := ends char rfl
      have noMark : ¬ (char = 'e' ∨ char = 'E') := by
        rintro (rfl | rfl) <;> contradiction
      simp only [exponent?, if_neg noMark]

theorem magnitude_decimalDigits {negative : Bool} {number : Nat} {rest : List Char}
    (notNegativeZero : (negative && number == 0) = false) (ends : EndsNumber rest) :
    magnitude negative (decimalDigits number ++ rest) =
      some (.whole (if negative then -(number : Int) else number), rest) := by
  rw [magnitude, digits_decimalDigits number ends]
  simp only [leadingZero_decimalDigits, Bool.false_eq_true, if_false,
    fraction_of_ends ends, exponent?_of_ends ends, List.append_nil,
    decimalValue_decimalDigits, notNegativeZero]
  rfl

/-- A text that begins with a digit has no sign. -/
theorem number_of_digit {digit : Char} (isDigit : digit.isDigit = true)
    (rest : List Char) : number (digit :: rest) = magnitude false (digit :: rest) := by
  unfold number
  split
  · rename_i after equal
    cases equal
    cases isDigit
  · rfl

theorem number_decimalDigits (value : Nat) (rest : List Char) :
    number (decimalDigits value ++ rest) =
      magnitude false (decimalDigits value ++ rest) := by
  obtain ⟨first, others, equal⟩ :=
    List.exists_cons_of_ne_nil (decimalDigits_ne_nil value)
  have isDigit : first.isDigit = true :=
    isDigit_of_mem_decimalDigits (equal ▸ List.mem_cons_self)
  rw [equal]
  exact number_of_digit isDigit _

/-- Whole numbers are read back. -/
theorem number_wholeText (value : Int) {rest : List Char} (ends : EndsNumber rest) :
    number (wholeText value ++ rest) = some (.whole value, rest) := by
  cases value with
  | ofNat value =>
      rw [wholeText, number_decimalDigits, magnitude_decimalDigits rfl ends]
      rfl
  | negSucc value =>
      rw [wholeText, List.cons_append, number, magnitude_decimalDigits rfl ends]
      rfl

/-! ## Decimal numbers -/

theorem exponent?_decimalDigits (power : Nat) {rest : List Char}
    (ends : EndsNumber rest) :
    exponent? ('e' :: (decimalDigits power ++ rest)) =
      some (some (power : Int), rest) := by
  have nonempty : (decimalDigits power).isEmpty = false :=
    List.isEmpty_eq_false_iff.mpr (decimalDigits_ne_nil power)
  have unsigned : ∀ char ∈ (decimalDigits power ++ rest).head?,
      char ≠ '-' ∧ char ≠ '+' := by
    obtain ⟨first, others, equal⟩ :=
      List.exists_cons_of_ne_nil (decimalDigits_ne_nil power)
    have isDigit : first.isDigit = true :=
      isDigit_of_mem_decimalDigits (equal ▸ List.mem_cons_self)
    rw [equal]
    rintro char same
    cases same
    constructor <;> (rintro rfl; cases isDigit)
  unfold exponent?
  dsimp only
  rw [if_pos (Or.inl rfl)]
  split
  · rename_i after signed
    rw [signed] at unsigned
    exact absurd rfl (unsigned '-' rfl).1
  · rename_i after signed
    rw [signed] at unsigned
    exact absurd rfl (unsigned '+' rfl).2
  · simp [digits_decimalDigits power ends, nonempty]

theorem exponent?_negative (power : Nat) {rest : List Char} (ends : EndsNumber rest) :
    exponent? ('e' :: '-' :: (decimalDigits power ++ rest)) =
      some (some (-(power : Int)), rest) := by
  have nonempty : (decimalDigits power).isEmpty = false :=
    List.isEmpty_eq_false_iff.mpr (decimalDigits_ne_nil power)
  unfold exponent?
  simp [digits_decimalDigits power ends, nonempty]

theorem exponent?_wholeText (power : Int) {rest : List Char} (ends : EndsNumber rest) :
    exponent? ('e' :: (wholeText power ++ rest)) = some (some power, rest) := by
  cases power with
  | ofNat power => exact exponent?_decimalDigits power ends
  | negSucc power => exact exponent?_negative (power + 1) ends

theorem magnitude_decimalText (negative : Bool) (significand : Nat) (power : Int)
    {rest : List Char} (ends : EndsNumber rest) :
    magnitude negative
        (decimalDigits significand ++ 'e' :: (wholeText power ++ rest)) =
      some (.decimal negative significand power, rest) := by
  have split_eq : digits (decimalDigits significand ++ 'e' :: (wholeText power ++ rest)) =
      (decimalDigits significand, 'e' :: (wholeText power ++ rest)) :=
    digits_append (fun _ => isDigit_of_mem_decimalDigits) (by rintro _ ⟨⟩; rfl)
  rw [magnitude, split_eq]
  simp [leadingZero_decimalDigits, fraction, exponent?_wholeText power ends]

/-- Decimal numbers are read back, digit by digit. -/
theorem number_decimalText (negative : Bool) (significand : Nat) (power : Int)
    {rest : List Char} (ends : EndsNumber rest) :
    number (decimalText negative significand power ++ rest) =
      some (.decimal negative significand power, rest) := by
  rw [decimalText, List.append_assoc, List.append_assoc, List.cons_append]
  cases negative with
  | true => exact magnitude_decimalText true significand power ends
  | false =>
      refine (number_decimalDigits _ _).trans ?_
      exact magnitude_decimalText false significand power ends

end Json

end OnboardStorage.Text
