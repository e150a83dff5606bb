import OnboardStorage.Proofs.Json.Quoted
import OnboardStorage.Text.Toml.Quoted
import OnboardStorage.Text.Toml.Writing

/-!
# Strings are read back

A string is written in the plainest form that shows it, and each form is read back in
its own way: escapes are resolved between quotation marks, apostrophes show the text as
it is, and three marks in a row may hold line breaks and single marks.

Marks in a row are the delicate part.  The reader looks five characters ahead, and up to
two marks before the closing ones belong to the text; so what the writer has to avoid
are three marks in a row, wherever they stand.
-/

namespace OnboardStorage.Text.Toml

/-! ## Characters -/

/-- A character that is no control character, tab included, stands for itself. -/
theorem isPlain_of_not_isControl {char : Char} (visible : ¬ isControl char = true)
    (notLineBreak : char ≠ '\n') : isPlain char = true := by
  rw [isControl, Bool.or_eq_true, not_or] at visible
  rw [isPlain, Bool.or_eq_true, Bool.and_eq_true]
  rcases Decidable.em (char = '\t') with isTab | notTab
  · exact .inl (decide_eq_true isTab)
  · right
    constructor
    · apply decide_eq_true
      apply Char.not_lt.mp
      intro small
      apply visible.1
      simp [small, notTab, notLineBreak]
    · simpa using visible.2

theorem toNat_of_isControl {char : Char} (control : isControl char = true) :
    char.toNat < 128 := by
  rw [isControl, Bool.or_eq_true] at control
  rcases control with below | isDelete
  · rw [Bool.and_eq_true, Bool.and_eq_true, decide_eq_true_eq] at below
    exact Nat.lt_trans below.1.1 (by decide)
  · rw [of_decide_eq_true isDelete]
    decide

theorem hexValue?_hexDigit {value : Nat} (small : value < 16) :
    hexValue? (hexDigit value) = some value := by
  have all : ∀ value < 16, hexValue? (hexDigit value) = some value := by decide
  exact all value small

/-- The code of a character below 256 stands for it. -/
theorem coded?_pair {char : Char} (small : char.toNat < 256) :
    coded? ['0', '0', hexDigit (char.toNat / 16), hexDigit (char.toNat % 16)] =
      some char := by
  have high : hexValue? (hexDigit (char.toNat / 16)) = some (char.toNat / 16) :=
    hexValue?_hexDigit (by omega)
  have low : hexValue? (hexDigit (char.toNat % 16)) = some (char.toNat % 16) :=
    hexValue?_hexDigit (by omega)
  have zero : hexValue? '0' = some 0 := rfl
  have number : hexNumber? ['0', '0', hexDigit (char.toNat / 16),
      hexDigit (char.toNat % 16)] = some char.toNat := by
    simp only [hexNumber?, List.foldl_cons, List.foldl_nil, zero, high, low]
    exact congrArg some (by omega)
  rw [coded?, number, Option.bind_some, Json.scalar?_toNat]

@[simp]
theorem push_some (char : Char) (read rest : List Char) :
    push char (some (read, rest)) = some (char :: read, rest) :=
  rfl

@[simp]
theorem pushSome_some (char : Char) (read : Option (List Char × List Char)) :
    pushSome (some char) read = push char read :=
  rfl

/-! ## One line between quotation marks -/

theorem basic_letter {letter char : Char} (notCode : letter ≠ 'u' ∧ letter ≠ 'U')
    (stands : escaped? letter = some char) (rest : List Char) :
    basic ('\\' :: letter :: rest) = push char (basic rest) := by
  rw [basic, stands, pushSome_some]
  · rintro a b c d after rfl
    exact absurd rfl notCode.1
  · rintro a b c d e f g h after rfl
    exact absurd rfl notCode.2

theorem basic_plain {char : Char} (plain : isPlain char = true) (notMark : char ≠ '"')
    (notBackslash : char ≠ '\\') (rest : List Char) :
    basic (char :: rest) = push char (basic rest) := by
  rw [basic, if_pos plain]
  · exact notMark
  · intro _ _ _ _ _ isBackslash
    exact absurd isBackslash notBackslash
  · intro _ _ _ _ _ _ _ _ _ isBackslash
    exact absurd isBackslash notBackslash
  · intro _ _ isBackslash
    exact absurd isBackslash notBackslash

/-- A character that is written on one line is read. -/
theorem basic_escape {char : Char} (notMark : char ≠ '"') (rest : List Char) :
    basic (escape false char ++ rest) = push char (basic rest) := by
  unfold escape
  split
  · exact basic_letter (by decide) rfl rest
  · exact basic_letter (by decide) rfl rest
  · exact basic_letter (by decide) rfl rest
  · exact basic_letter (by decide) rfl rest
  · exact basic_letter (by decide) rfl rest
  · exact basic_letter (by decide) rfl rest
  · rename_i notBackslash _ _ notLineBreak _ _
    split
    · rename_i control
      have coded := coded?_pair (Nat.lt_trans (toNat_of_isControl control) (by decide))
      simp only [List.cons_append, List.nil_append, basic, coded, pushSome_some]
    · rename_i visible
      exact basic_plain (isPlain_of_not_isControl visible notLineBreak) notMark
        notBackslash rest

theorem basic_escapeEach (text rest : List Char) (run : Nat) :
    basic (escapeEach false run text ++ '"' :: rest) = some (text, rest) := by
  induction text generalizing run with
  | nil => rfl
  | cons char others ih =>
      rw [escapeEach]
      by_cases isMark : char = '"'
      · subst isMark
        rw [if_pos rfl, Bool.false_and, if_neg Bool.false_ne_true, List.cons_append,
          List.cons_append, basic_letter (by decide) rfl, ih, push_some]
      · rw [if_neg isMark, List.append_assoc, basic_escape isMark, ih, push_some]

/-! ## Several lines between quotation marks -/

/-- A text that does not begin with two of a mark. -/
def NotTwo (mark : Char) (text : List Char) : Prop :=
  ∀ rest, text ≠ mark :: mark :: rest

theorem notTwo_cons_of_ne {mark char : Char} (different : char ≠ mark) (rest : List Char) :
    NotTwo mark (char :: rest) := by
  rintro others equal
  cases equal
  exact different rfl

theorem basicLines_letter {letter char : Char} {rest : List Char}
    (notCode : letter ≠ 'u' ∧ letter ≠ 'U') (stays : opensNextLine (letter :: rest) = false)
    (stands : escaped? letter = some char) :
    basicLines false ('\\' :: letter :: rest) = push char (basicLines false rest) := by
  rw [basicLines, stays, if_neg Bool.false_ne_true, stands, pushSome_some]
  · rintro a b c d after rfl
    exact absurd rfl notCode.1
  · rintro a b c d e f g h after rfl
    exact absurd rfl notCode.2

/-- A character that stands for itself is read.  A mark does unless it is the first of
three. -/
theorem basicLines_shown {char : Char} {rest : List Char}
    (shown : char = '\n' ∨ isPlain char = true) (single : char = '"' → NotTwo '"' rest)
    (notBackslash : char ≠ '\\') (notReturn : char ≠ '\r') :
    basicLines false (char :: rest) = push char (basicLines false rest) := by
  have kept : (decide (char = '\n') || isPlain char) = true := by simpa using shown
  rw [basicLines, Bool.false_and, if_neg Bool.false_ne_true, if_pos kept]
  · intro _ isMark marks
    exact single isMark _ marks
  · intro _ isMark marks
    exact single isMark _ marks
  · intro _ isMark marks
    exact single isMark _ marks
  · intro _ isReturn
    exact absurd isReturn notReturn
  · intro _ _ _ _ _ isBackslash
    exact absurd isBackslash notBackslash
  · intro _ _ _ _ _ _ _ _ _ isBackslash
    exact absurd isBackslash notBackslash
  · intro _ _ isBackslash
    exact absurd isBackslash notBackslash

/-- A character that is written on several lines is read. -/
theorem basicLines_escape {char : Char} (notMark : char ≠ '"') (rest : List Char) :
    basicLines false (escape true char ++ rest) = push char (basicLines false rest) := by
  unfold escape
  split
  · exact basicLines_letter (by decide) rfl rfl
  · exact basicLines_letter (by decide) rfl rfl
  · exact basicLines_letter (by decide) rfl rfl
  · exact basicLines_shown (.inl rfl) (by simp) (by decide) (by decide)
  · exact basicLines_letter (by decide) rfl rfl
  · exact basicLines_letter (by decide) rfl rfl
  · rename_i notBackslash _ _ notLineBreak _ notReturn
    split
    · rename_i control
      have coded := coded?_pair (Nat.lt_trans (toNat_of_isControl control) (by decide))
      simp only [List.cons_append, List.nil_append, basicLines, coded, pushSome_some]
    · rename_i visible
      have plain := isPlain_of_not_isControl visible notLineBreak
      exact basicLines_shown (.inr plain) (fun isMark => absurd isMark notMark) notBackslash
        notReturn

/-- What a character other than the mark is written as begins neither with the mark nor
with a line break that is not the character itself. -/
theorem exists_escape_eq_cons (multiline : Bool) {char : Char} (notMark : char ≠ '"') :
    ∃ first others, escape multiline char = first :: others ∧ first ≠ '"' ∧
      first ≠ '\r' ∧ (first = '\n' → char = '\n') := by
  have escaped (others : List Char) : ∃ first rest, '\\' :: others = first :: rest ∧
      first ≠ '"' ∧ first ≠ '\r' ∧ (first = '\n' → char = '\n') :=
    ⟨_, _, rfl, by decide, by decide, fun isLineBreak => absurd isLineBreak (by decide)⟩
  unfold escape
  split
  case h_4 =>
    cases multiline with
    | true => exact ⟨_, _, rfl, by decide, by decide, fun _ => rfl⟩
    | false => exact escaped _
  case h_7 =>
    rename_i notReturn
    split
    · exact escaped _
    · exact ⟨_, _, rfl, notMark, notReturn, id⟩
  all_goals exact escaped _

/-- After two marks, or before another character, no mark is written. -/
theorem exists_escapeEach_eq_cons {run : Nat} {char : Char}
    (stops : 2 ≤ run ∨ char ≠ '"') (others : List Char) :
    ∃ first written, escapeEach true run (char :: others) = first :: written ∧
      first ≠ '"' := by
  rw [escapeEach]
  by_cases isMark : char = '"'
  · have many : ¬ run < 2 := Nat.not_lt.mpr (stops.resolve_right fun notMark => notMark isMark)
    simp only [isMark, if_pos, many, decide_false, Bool.and_false, Bool.false_eq_true, if_false]
    exact ⟨_, _, rfl, by decide⟩
  · rcases exists_escape_eq_cons true isMark with
      ⟨first, written, equal, notMark, -⟩
    rw [if_neg isMark, equal]
    exact ⟨_, _, rfl, notMark⟩

/-- Behind a mark no two others are written but those at the end of a text. -/
theorem notTwo_escapeEach {run : Nat} {text : List Char} (nonempty : text ≠ [])
    (notLast : ¬ (run = 0 ∧ text = ['"'])) (rest : List Char) :
    NotTwo '"' (escapeEach true (run + 1) text ++ rest) := by
  rcases text with - | ⟨char, others⟩
  · exact absurd rfl nonempty
  by_cases stops : 2 ≤ run + 1 ∨ char ≠ '"'
  · rcases exists_escapeEach_eq_cons stops others with ⟨first, written, equal, notMark⟩
    rw [equal]
    exact notTwo_cons_of_ne notMark _
  · rw [not_or, Decidable.not_not] at stops
    rcases stops with ⟨few, rfl⟩
    have fresh : run = 0 := by omega
    subst fresh
    rcases others with - | ⟨second, others⟩
    · exact absurd ⟨rfl, rfl⟩ notLast
    rcases exists_escapeEach_eq_cons (.inl (Nat.le_refl 2)) others with
      ⟨first, written, equal, notMark⟩
    intro after marks
    rw [escapeEach, if_pos rfl, if_pos (by decide), equal] at marks
    cases marks
    exact notMark rfl

/-- A text that is written on several lines is read up to the marks behind it. -/
theorem basicLines_escapeEach (text rest : List Char) (run : Nat) :
    basicLines false (escapeEach true run text ++ '"' :: '"' :: '"' :: '\n' :: rest) =
      some (text, '\n' :: rest) := by
  induction text generalizing run with
  | nil => rfl
  | cons char others ih =>
      rw [escapeEach]
      by_cases isMark : char = '"'
      · subst isMark
        by_cases few : run < 2
        · rw [if_pos rfl, decide_eq_true few, Bool.and_self, if_pos rfl, List.cons_append]
          -- The last marks of the text and the closing ones are read together.
          by_cases last : others = []
          · subst last
            rfl
          by_cases lastTwo : run = 0 ∧ others = ['"']
          · rcases lastTwo with ⟨rfl, rfl⟩
            rfl
          rw [basicLines_shown (.inr (by decide)) (fun _ => notTwo_escapeEach last lastTwo _)
            (by decide) (by decide), ih, push_some]
        · rw [if_pos rfl, decide_eq_false few, Bool.and_false, if_neg Bool.false_ne_true,
            List.cons_append, List.cons_append, basicLines_letter (by decide) rfl rfl, ih,
            push_some]
      · rw [if_neg isMark, List.append_assoc, basicLines_escape isMark, ih, push_some]

/-! ## Apostrophes -/

theorem literal_shown {char : Char} (plain : isPlain char = true) (notMark : char ≠ '\'')
    (rest : List Char) : literal (char :: rest) = push char (literal rest) := by
  rw [literal, if_pos plain]
  exact notMark

/-- A text without apostrophes and control characters is read up to an apostrophe. -/
theorem literal_append {text : List Char}
    (shown : ∀ char ∈ text, isPlain char = true ∧ char ≠ '\'') (rest : List Char) :
    literal (text ++ '\'' :: rest) = some (text, rest) := by
  induction text with
  | nil => rfl
  | cons char others ih =>
      rcases List.forall_mem_cons.mp shown with ⟨⟨plain, notMark⟩, ofOthers⟩
      rw [List.cons_append, literal_shown plain notMark, ih ofOthers, push_some]

theorem literalLines_shown {char : Char} {rest : List Char}
    (shown : char = '\n' ∨ isPlain char = true) (single : char = '\'' → NotTwo '\'' rest)
    (notReturn : char ≠ '\r') :
    literalLines (char :: rest) = push char (literalLines rest) := by
  have kept : (decide (char = '\n') || isPlain char) = true := by simpa using shown
  rw [literalLines, if_pos kept]
  · intro _ isMark marks
    exact single isMark _ marks
  · intro _ isMark marks
    exact single isMark _ marks
  · intro _ isMark marks
    exact single isMark _ marks
  · intro _ isReturn
    exact absurd isReturn notReturn

theorem le_longestRun (mark : Char) (run : Nat) (text : List Char) :
    run ≤ longestRun mark run text := by
  induction text generalizing run with
  | nil => exact Nat.le_refl run
  | cons char rest ih =>
      rw [longestRun]
      split
      · exact Nat.le_trans (Nat.le_succ run) (ih (run + 1))
      · exact Nat.le_max_left _ _

/-- Where no mark is the third in a row, none has two others behind it but those at
the end of the text. -/
theorem notTwo_append {mark : Char} {run : Nat} {text rest : List Char}
    (few : longestRun mark (run + 1) text ≤ 2) (nonempty : text ≠ [])
    (notLast : text ≠ [mark]) : NotTwo mark (text ++ rest) := by
  intro after marks
  rcases text with - | ⟨first, - | ⟨second, others⟩⟩
  · exact nonempty rfl
  · cases marks
    exact notLast rfl
  · cases marks
    rw [longestRun, if_pos rfl, longestRun, if_pos rfl] at few
    have many := le_longestRun mark (run + 1 + 1 + 1) others
    omega

/-- A text in which there are no three apostrophes in a row is read up to the three
behind it. -/
theorem literalLines_append {text : List Char} (rest : List Char) {run : Nat}
    (shown : ∀ char ∈ text, (char = '\n' ∨ isPlain char = true) ∧ char ≠ '\r')
    (few : longestRun '\'' run text ≤ 2) :
    literalLines (text ++ '\'' :: '\'' :: '\'' :: '\n' :: rest) =
      some (text, '\n' :: rest) := by
  induction text generalizing run with
  | nil => rfl
  | cons char others ih =>
      rcases List.forall_mem_cons.mp shown with ⟨⟨shownFirst, notReturn⟩, ofOthers⟩
      rw [List.cons_append]
      by_cases isMark : char = '\''
      · subst isMark
        rw [longestRun, if_pos rfl] at few
        by_cases last : others = []
        · subst last
          rfl
        by_cases lastTwo : others = ['\'']
        · subst lastTwo
          rfl
        rw [literalLines_shown shownFirst (fun _ => notTwo_append few last lastTwo) notReturn,
          ih ofOthers few, push_some]
      · rw [longestRun, if_neg isMark] at few
        have fewer : longestRun '\'' 0 others ≤ 2 := Nat.le_trans (Nat.le_max_right _ _) few
        rw [literalLines_shown shownFirst (fun equal => absurd equal isMark) notReturn,
          ih ofOthers fewer, push_some]

/-! ## Any form -/

theorem quoted_basic {rest : List Char} (single : NotTwo '"' rest) :
    quoted ('"' :: rest) = basic rest := by
  rw [quoted]
  intro _ marks
  exact single _ marks

theorem quoted_literal {rest : List Char} (single : NotTwo '\'' rest) :
    quoted ('\'' :: rest) = literal rest := by
  rw [quoted]
  intro _ marks
  exact single _ marks

/-- A text on one line is read, with whatever it needs to have escaped. -/
theorem quoted_oneLine (text rest : List Char) :
    quoted ('"' :: (escapeEach false 0 text ++ ['"']) ++ '\n' :: rest) =
      some (text, '\n' :: rest) := by
  rw [List.cons_append, List.append_assoc, List.singleton_append]
  have single : NotTwo '"' (escapeEach false 0 text ++ '"' :: '\n' :: rest) := by
    rcases text with - | ⟨char, others⟩
    · intro after marks
      cases marks
    · rw [escapeEach]
      by_cases isMark : char = '"'
      · rw [if_pos isMark, Bool.false_and, if_neg Bool.false_ne_true]
        exact notTwo_cons_of_ne (by decide) _
      · rcases exists_escape_eq_cons false isMark with
          ⟨first, written, equal, notMark, -⟩
        rw [if_neg isMark, equal]
        exact notTwo_cons_of_ne notMark _
  rw [quoted_basic single, basic_escapeEach]

/-- A text on one line between apostrophes is read. -/
theorem quoted_oneLine_literal {text : List Char}
    (shown : ∀ char ∈ text, isPlain char = true ∧ char ≠ '\'') (rest : List Char) :
    quoted ('\'' :: (text ++ ['\'']) ++ '\n' :: rest) = some (text, '\n' :: rest) := by
  rw [List.cons_append, List.append_assoc, List.singleton_append]
  have single : NotTwo '\'' (text ++ '\'' :: '\n' :: rest) := by
    rcases text with - | ⟨char, others⟩
    · intro after marks
      cases marks
    · exact notTwo_cons_of_ne (shown char List.mem_cons_self).2 _
  rw [quoted_literal single, literal_append shown]

/-- The line break behind opening marks is skipped, and no other one is. -/
theorem skipLineBreak_opening {text written : List Char}
    (starts : '\n' ∉ text → ∃ first others, written = first :: others ∧
      first ≠ '\n' ∧ first ≠ '\r') :
    skipLineBreak ((if text.contains '\n' then ['\n'] else []) ++ written) = written := by
  by_cases broken : '\n' ∈ text
  · rw [if_pos (List.contains_iff_mem.mpr broken)]
    rfl
  · rw [if_neg fun listed => broken (List.contains_iff_mem.mp listed), List.nil_append]
    rcases starts broken with ⟨first, others, rfl, notLineBreak, notReturn⟩
    rw [skipLineBreak, lineBreak?, Option.getD_none]
    · intro after equal
      cases equal
      exact notLineBreak rfl
    · intro after equal
      cases equal
      exact notReturn rfl

theorem exists_escapeEach_append_eq_cons {text : List Char} (oneLine : '\n' ∉ text)
    (rest : List Char) :
    ∃ first others, escapeEach true 0 text ++ '"' :: rest = first :: others ∧
      first ≠ '\n' ∧ first ≠ '\r' := by
  rcases text with - | ⟨char, others⟩
  · exact ⟨_, _, rfl, by decide, by decide⟩
  rw [escapeEach]
  by_cases isMark : char = '"'
  · rw [if_pos isMark, if_pos (by decide)]
    exact ⟨_, _, rfl, by decide, by decide⟩
  · rcases exists_escape_eq_cons true isMark with
      ⟨first, written, equal, -, notReturn, isLineBreak⟩
    rw [if_neg isMark, equal]
    refine ⟨_, _, rfl, ?_, notReturn⟩
    intro broken
    exact oneLine (isLineBreak broken ▸ List.mem_cons_self)

/-- A text on several lines is read, with whatever it needs to have escaped. -/
theorem quoted_severalLines (text rest : List Char) :
    quoted (onLines (tripled '"') text (escapeEach true 0 text) ++ '\n' :: rest) =
      some (text, '\n' :: rest) := by
  simp only [onLines, tripled, List.append_assoc, List.cons_append, List.nil_append]
  rw [quoted, skipLineBreak_opening fun oneLine =>
    exists_escapeEach_append_eq_cons oneLine _]
  exact basicLines_escapeEach text rest 0

/-- A text on several lines between apostrophes is read. -/
theorem quoted_severalLines_literal {text : List Char}
    (shown : ∀ char ∈ text, (char = '\n' ∨ isPlain char = true) ∧ char ≠ '\r')
    (few : longestRun '\'' 0 text ≤ 2) (rest : List Char) :
    quoted (onLines (tripled '\'') text text ++ '\n' :: rest) =
      some (text, '\n' :: rest) := by
  have starts (oneLine : '\n' ∉ text) : ∃ first others,
      text ++ '\'' :: '\'' :: '\'' :: '\n' :: rest = first :: others ∧
        first ≠ '\n' ∧ first ≠ '\r' := by
    rcases text with - | ⟨char, others⟩
    · exact ⟨_, _, rfl, by decide, by decide⟩
    · refine ⟨_, _, rfl, ?_, (shown char List.mem_cons_self).2⟩
      rintro rfl
      exact oneLine List.mem_cons_self
  simp only [onLines, tripled, List.append_assoc, List.cons_append, List.nil_append]
  rw [quoted, skipLineBreak_opening starts]
  exact literalLines_append rest shown few

theorem longestRun_pos {mark : Char} {text : List Char} (member : mark ∈ text) (run : Nat) :
    0 < longestRun mark run text := by
  induction text generalizing run with
  | nil => cases member
  | cons char others ih =>
      rw [longestRun]
      by_cases isMark : char = mark
      · rw [if_pos isMark]
        exact Nat.lt_of_lt_of_le (Nat.succ_pos run) (le_longestRun mark (run + 1) others)
      · rw [if_neg isMark]
        have later := List.mem_of_ne_of_mem (Ne.symm isMark) member
        exact Nat.lt_of_lt_of_le (ih later 0) (Nat.le_max_right _ _)

/-- The characters of a text that needs no escapes. -/
theorem shown_of_escapeFree {text : List Char} (escapeFree : (!text.any isControl) = true)
    {char : Char} (member : char ∈ text) :
    (char = '\n' ∨ isPlain char = true) ∧ char ≠ '\r' := by
  have visible : ¬ isControl char = true := by
    rw [Bool.not_eq_true', List.any_eq_false] at escapeFree
    exact escapeFree char member
  constructor
  · by_cases isLineBreak : char = '\n'
    · exact .inl isLineBreak
    · exact .inr (isPlain_of_not_isControl visible isLineBreak)
  · rintro rfl
    exact visible rfl

/-- Every text is read back, whichever form it is written in. -/
theorem quoted_quote (content : String) (rest : List Char) :
    quoted (quote content ++ '\n' :: rest) = some (content.toList, '\n' :: rest) := by
  unfold quote
  generalize content.toList = text
  dsimp only
  split
  · exact quoted_oneLine text rest
  split
  · rename_i chosen
    rw [Bool.and_eq_true, Bool.and_eq_true] at chosen
    rcases chosen with ⟨⟨escapeFree, noMark⟩, oneLine⟩
    apply quoted_oneLine_literal
    intro char member
    have notLineBreak : char ≠ '\n' := by
      rintro rfl
      simp [member] at oneLine
    have notMark : char ≠ '\'' := by
      rintro rfl
      exact absurd (of_decide_eq_true noMark) (Nat.ne_of_gt (longestRun_pos member 0))
    exact ⟨(shown_of_escapeFree escapeFree member).1.resolve_left notLineBreak, notMark⟩
  split
  · exact quoted_severalLines text rest
  split
  · rename_i chosen
    rw [Bool.and_eq_true] at chosen
    exact quoted_severalLines_literal (fun char => shown_of_escapeFree chosen.1)
      (of_decide_eq_true chosen.2) rest
  split
  · exact quoted_severalLines text rest
  · exact quoted_oneLine text rest

end OnboardStorage.Text.Toml
