import OnboardStorage.Proofs.Json.Number
import OnboardStorage.Proofs.Toml.Quoted
import OnboardStorage.Text.Toml.Reading

/-!
# Values are read back

A written value stands at the end of its line.  Digits could begin a date, a time of day
or a number in another base; they do not, since the line ends behind them.
-/

namespace OnboardStorage.Text.Toml

/-! ## Digits at the end of a line -/

/-- The digits of a number: the first one is zero only if it is the only one. -/
theorem exists_decimalDigits_eq_cons (number : Nat) :
    ∃ first others, decimalDigits number = first :: others ∧ first.isDigit = true ∧
      (first = '0' → others = []) := by
  rcases List.exists_cons_of_ne_nil (Json.decimalDigits_ne_nil number) with
    ⟨first, others, equal⟩
  refine ⟨first, others, equal, ?_, ?_⟩
  · exact Json.isDigit_of_mem_decimalDigits (equal ▸ List.mem_cons_self)
  · rintro rfl
    rcases Nat.eq_zero_or_pos number with rfl | positive
    · cases equal
      rfl
    · have notZero := Json.head?_decimalDigits_ne_zero positive
      rw [equal] at notZero
      exact absurd rfl notZero

theorem moreDigits_append {read : List Char} (all : ∀ char ∈ read, char.isDigit = true)
    (rest : List Char) :
    moreDigits Char.isDigit (read ++ '\n' :: rest) = some (read, '\n' :: rest) := by
  induction read with
  | nil => rfl
  | cons char others ih =>
      rcases List.forall_mem_cons.mp all with ⟨isDigit, ofOthers⟩
      have notUnderscore : char ≠ '_' := by
        rintro rfl
        cases isDigit
      rw [List.cons_append, moreDigits, if_neg notUnderscore, if_pos isDigit, ih ofOthers,
        Option.map_some]
      intro _ _ isUnderscore
      exact absurd isUnderscore notUnderscore

theorem digitRun_decimalDigits (number : Nat) (rest : List Char) :
    digitRun Char.isDigit (decimalDigits number ++ '\n' :: rest) =
      some (decimalDigits number, '\n' :: rest) := by
  rcases exists_decimalDigits_eq_cons number with ⟨first, others, equal, isDigit, -⟩
  have allOthers : ∀ char ∈ others, char.isDigit = true := fun char member =>
    Json.isDigit_of_mem_decimalDigits (equal ▸ List.mem_cons_of_mem _ member)
  rw [equal, List.cons_append, digitRun, if_pos isDigit, moreDigits_append allOthers,
    Option.map_some]

theorem leadingZero_decimalDigits (number : Nat) :
    ¬ ((decimalDigits number).head? = some '0' ∧ (decimalDigits number).length ≠ 1) := by
  rcases exists_decimalDigits_eq_cons number with ⟨first, others, equal, -, alone⟩
  rintro ⟨leading, several⟩
  rw [equal] at leading several
  rw [alone (Option.some.inj leading)] at several
  exact several rfl

theorem whole?_of_lt {number : Nat} (small : number < Nat.pow 2 63) :
    whole? (number : Int) = some (.ofNat number) := by
  have bound_eq : wholeBound = ((Nat.pow 2 63 : Nat) : Int) := rfl
  rw [whole?, bound_eq]
  generalize Nat.pow 2 63 = bound at small
  exact if_pos (by omega)

theorem magnitude_decimalDigits {number : Nat} (small : number < Nat.pow 2 63)
    (rest : List Char) :
    magnitude false (decimalDigits number ++ '\n' :: rest) =
      some (.ofNat number, '\n' :: rest) := by
  have noFraction : fraction ('\n' :: rest) = some ([], '\n' :: rest) := rfl
  have noExponent : exponent? ('\n' :: rest) = some (none, '\n' :: rest) := rfl
  unfold magnitude
  simp only [digitRun_decimalDigits, Option.bind_eq_bind, Option.bind_some]
  rw [if_neg (leadingZero_decimalDigits number), noFraction, Option.bind_some, noExponent,
    Option.bind_some, if_pos ⟨rfl, rfl⟩, List.append_nil, decimalValue_decimalDigits,
    if_neg Bool.false_ne_true, whole?_of_lt small, Option.bind_some]
  rfl

/-- A mark that neither is a digit nor ends a line does not follow digits. -/
theorem after?_of_digitGroup {count value : Nat} {read rest after : List Char} {mark : Char}
    (all : ∀ char ∈ read, char.isDigit = true)
    (notDigit : mark.isDigit = false) (notLineBreak : mark ≠ '\n')
    (grouped : digitGroup count (read ++ '\n' :: rest) = some (value, after)) :
    after? mark after = none := by
  rw [digitGroup] at grouped
  split at grouped
  case isFalse => cases grouped
  rename_i complete
  cases grouped
  have within : count ≤ read.length := by
    rcases Nat.lt_or_ge read.length count with outside | within
    · have listed : '\n' ∈ (read ++ '\n' :: rest).take count := by
        rw [List.take_append, List.mem_append]
        right
        rw [List.take_cons (by omega)]
        exact List.mem_cons_self
      have isDigit := List.all_eq_true.mp complete.2 '\n' listed
      cases isDigit
    · exact within
  rw [List.drop_append_of_le_length within]
  rcases dropped : read.drop count with - | ⟨first, others⟩
  · exact if_neg (Ne.symm notLineBreak)
  · have isDigit := all first (List.mem_of_mem_drop (dropped ▸ List.mem_cons_self))
    apply if_neg
    rintro rfl
    rw [notDigit] at isDigit
    cases isDigit

/-- A line of digits is no moment. -/
theorem moment?_append {read : List Char} (all : ∀ char ∈ read, char.isDigit = true)
    (rest : List Char) : moment? (read ++ '\n' :: rest) = none := by
  have noDate : date? (read ++ '\n' :: rest) = none := by
    unfold date?
    cases grouped : digitGroup 4 (read ++ '\n' :: rest) with
    | none => rfl
    | some year =>
        have noMark : after? '-' year.2 = none :=
          after?_of_digitGroup all (by decide) (by decide) grouped
        simp [noMark]
  have noTime : time? (read ++ '\n' :: rest) = none := by
    unfold time?
    cases grouped : twoDigits 23 (read ++ '\n' :: rest) with
    | none => rfl
    | some hour =>
        have group := (Option.filter_eq_some_iff.mp grouped).1
        have noMark : after? ':' hour.2 = none :=
          after?_of_digitGroup all (by decide) (by decide) group
        simp [noMark]
  rw [moment?, noDate]
  exact noTime

/-! ## Values at the end of a line -/

theorem special_of_digit {first : Char} (isDigit : first.isDigit = true) (rest : List Char) :
    special (first :: rest) = none := by
  unfold special
  split
  case h_1 word =>
    cases word
    cases isDigit
  case h_2 word =>
    cases word
    cases isDigit
  case h_3 => rfl

/-- A text that begins with a digit has no sign, and behind a zero that ends its line
there is no mark of a base. -/
theorem number_of_digit {first : Char} {rest : List Char} (isDigit : first.isDigit = true)
    (alone : first = '0' → ∃ after, rest = '\n' :: after) :
    number (first :: rest) = magnitude false (first :: rest) := by
  have notBased {mark : Char} {after : List Char} (notLineBreak : mark ≠ '\n')
      (based : first :: rest = '0' :: mark :: after) : False := by
    cases based
    rcases alone rfl with ⟨others, equal⟩
    cases equal
    exact notLineBreak rfl
  unfold number
  split
  case h_1 based => exact (notBased (by decide) based).elim
  case h_2 based => exact (notBased (by decide) based).elim
  case h_3 based => exact (notBased (by decide) based).elim
  case h_4 signed =>
    cases signed
    cases isDigit
  case h_5 signed =>
    cases signed
    cases isDigit
  case h_6 =>
    rw [unsigned, special_of_digit isDigit]
    rfl

theorem quoted_eq_none {first : Char} (notMark : first ≠ '"' ∧ first ≠ '\'')
    (rest : List Char) : quoted (first :: rest) = none := by
  unfold quoted
  split
  case h_1 marks =>
    cases marks
    exact absurd rfl notMark.1
  case h_2 marks =>
    cases marks
    exact absurd rfl notMark.1
  case h_3 marks =>
    cases marks
    exact absurd rfl notMark.2
  case h_4 marks =>
    cases marks
    exact absurd rfl notMark.2
  case h_5 => rfl

theorem scalar_of_ne {first : Char} (notFlag : first ≠ 't' ∧ first ≠ 'f') (rest : List Char) :
    scalar (first :: rest) =
      match quoted (first :: rest) with
      | some (content, rest) => some (.text (String.ofList content), rest)
      | none =>
          match moment? (first :: rest) with
          | some rest => some (.record [], rest)
          | none => number (first :: rest) := by
  conv => left; unfold scalar
  split
  case h_1 word =>
    cases word
    exact absurd rfl notFlag.1
  case h_2 word =>
    cases word
    exact absurd rfl notFlag.2
  case h_3 => rfl

/-- Whole numbers of 63 bits are read back. -/
theorem scalar_decimalDigits {number : Nat} (small : number < Nat.pow 2 63)
    (rest : List Char) :
    scalar (decimalDigits number ++ '\n' :: rest) = some (.ofNat number, '\n' :: rest) := by
  have read := magnitude_decimalDigits small rest
  have all : ∀ char ∈ decimalDigits number, char.isDigit = true :=
    fun _ => Json.isDigit_of_mem_decimalDigits
  have noMoment := moment?_append all rest
  rcases exists_decimalDigits_eq_cons number with ⟨first, others, equal, isDigit, alone⟩
  have differs {mark : Char} (notDigit : mark.isDigit = false) : first ≠ mark := by
    rintro rfl
    rw [notDigit] at isDigit
    cases isDigit
  have atEnd (isZero : first = '0') : ∃ after, others ++ '\n' :: rest = '\n' :: after := by
    rw [alone isZero]
    exact ⟨rest, rfl⟩
  rw [equal, List.cons_append] at read noMoment ⊢
  rw [scalar_of_ne ⟨differs (by decide), differs (by decide)⟩,
    quoted_eq_none ⟨differs (by decide), differs (by decide)⟩]
  dsimp only
  rw [noMoment]
  dsimp only
  rw [number_of_digit isDigit atEnd, read]

/-- A written string begins with one of the marks. -/
theorem exists_quote_eq_cons (content : String) :
    ∃ mark written, quote content = mark :: written ∧ (mark = '"' ∨ mark = '\'') := by
  unfold quote
  dsimp only
  split
  · exact ⟨_, _, rfl, .inl rfl⟩
  split
  · exact ⟨_, _, rfl, .inr rfl⟩
  split
  · exact ⟨_, _, rfl, .inl rfl⟩
  split
  · exact ⟨_, _, rfl, .inr rfl⟩
  split
  · exact ⟨_, _, rfl, .inl rfl⟩
  · exact ⟨_, _, rfl, .inl rfl⟩

/-- Strings are read back. -/
theorem scalar_quote (content : String) (rest : List Char) :
    scalar (quote content ++ '\n' :: rest) = some (.text content, '\n' :: rest) := by
  have read := quoted_quote content rest
  rcases exists_quote_eq_cons content with ⟨mark, written, equal, isMark⟩
  have notFlag : mark ≠ 't' ∧ mark ≠ 'f' := by
    rcases isMark with rfl | rfl <;> decide
  rw [equal, List.cons_append] at read ⊢
  rw [scalar_of_ne notFlag, read]
  dsimp only
  rw [String.ofList_toList]

/-- A value that does not open a list or a table is read as a single one. -/
theorem value_of_ne {bound depth : Nat} {first : Char}
    (single : first ≠ '[' ∧ first ≠ '\x7b') (rest : List Char) :
    value bound (depth + 1) (first :: rest) = scalar (first :: rest) := by
  rw [value]
  dsimp only
  split
  case h_1 opens =>
    cases opens
    exact absurd rfl single.1
  case h_2 opens =>
    cases opens
    exact absurd rfl single.2
  case h_3 => rfl

theorem valueText_ofNat {number : Nat} (small : number < Nat.pow 2 63) :
    valueText (.ofNat number) = some (decimalDigits number) :=
  if_pos small

/-- Every value that can be written is read back. -/
theorem value_valueText {datum : Datum} {written : List Char}
    (text : valueText datum = some written) (bound depth : Nat) (rest : List Char) :
    value (bound + 1) (depth + 1) (written ++ '\n' :: rest) = some (datum, '\n' :: rest) := by
  unfold valueText at text
  split at text
  case h_1 => cases text; rfl
  case h_2 => cases text; rfl
  case h_3 number =>
    split at text
    case isFalse => cases text
    case isTrue small =>
      cases text
      have read := scalar_decimalDigits small rest
      rcases exists_decimalDigits_eq_cons number with ⟨first, others, equal, isDigit, -⟩
      have single : first ≠ '[' ∧ first ≠ '\x7b' := by
        constructor <;> rintro rfl <;> cases isDigit
      rw [equal, List.cons_append] at read ⊢
      rw [value_of_ne single, read]
      rfl
  case h_4 content =>
    cases text
    have read := scalar_quote content rest
    rcases exists_quote_eq_cons content with ⟨mark, others, equal, isMark⟩
    have single : mark ≠ '[' ∧ mark ≠ '\x7b' := by
      rcases isMark with rfl | rfl <;> decide
    rw [equal, List.cons_append] at read ⊢
    rw [value_of_ne single, read]
  case h_5 => cases text; rfl
  case h_6 => cases text

end OnboardStorage.Text.Toml
