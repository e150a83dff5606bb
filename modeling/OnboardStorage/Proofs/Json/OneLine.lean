import OnboardStorage.Proofs.Json.RoundTrip

/-!
# What is written on one line stays on it

The text of data on one line holds no control character, whatever the strings in the
data hold; so a reader that splits a text at its line breaks finds every such line whole.
-/

namespace OnboardStorage.Text.Json

/-- A text without control characters. -/
def Printable (text : List Char) : Prop :=
  ∀ char ∈ text, ' ' ≤ char

namespace Printable

theorem nil : Printable [] :=
  List.forall_mem_nil _

theorem cons {char : Char} {text : List Char} (first : ' ' ≤ char)
    (others : Printable text) : Printable (char :: text) :=
  List.forall_mem_cons.mpr ⟨first, others⟩

theorem append {first second : List Char} (left : Printable first)
    (right : Printable second) : Printable (first ++ second) := by
  intro char member
  rcases List.mem_append.mp member with inFirst | inSecond
  · exact left char inFirst
  · exact right char inSecond

end Printable

/-! ## Numbers and strings -/

theorem printable_decimalDigits (number : Nat) : Printable (decimalDigits number) := by
  intro digit member
  have isDigit := isDigit_of_mem_decimalDigits member
  rw [Char.isDigit, Bool.and_eq_true, decide_eq_true_eq] at isDigit
  exact UInt32.le_trans (by decide) isDigit.1

theorem printable_wholeText (number : Int) : Printable (wholeText number) := by
  cases number with
  | ofNat magnitude => exact printable_decimalDigits magnitude
  | negSucc magnitude =>
      exact .cons (by decide) (printable_decimalDigits (magnitude + 1))

theorem printable_decimalText (negative : Bool) (significand : Nat) (power : Int) :
    Printable (decimalText negative significand power) := by
  have sign : Printable (if negative then ['-'] else []) := by
    cases negative with
    | true => exact .cons (by decide) .nil
    | false => exact .nil
  exact (sign.append (printable_decimalDigits significand)).append
    (.cons (by decide) (printable_wholeText power))

theorem printable_hexDigit {value : Nat} (small : value < 16) : ' ' ≤ hexDigit value := by
  have all : ∀ value < 16, ' ' ≤ hexDigit value := by decide
  exact all value small

/-- Control characters are written as escapes. -/
theorem printable_escape (char : Char) : Printable (escape char) := by
  unfold escape
  split
  case h_8 =>
    split
    · rename_i control
      have small : char.toNat < 32 := control
      have high : ' ' ≤ hexDigit (char.toNat / 16) := printable_hexDigit (by omega)
      have low : ' ' ≤ hexDigit (char.toNat % 16) := printable_hexDigit (by omega)
      have letters : Printable ['\\', 'u', '0', '0'] := by
        simp [Printable]
      exact letters.append (.cons high (.cons low .nil))
    · rename_i plain
      exact .cons (Char.not_lt.mp plain) .nil
  all_goals
    simp [Printable]

theorem printable_quote (text : String) : Printable (quote text) := by
  have escapes : Printable (text.toList.flatMap escape) := by
    intro char member
    rcases List.mem_flatMap.mp member with ⟨source, _, written⟩
    exact printable_escape source char written
  exact .cons (by decide) (escapes.append (.cons (by decide) .nil))

/-! ## Data -/

mutual

/-- The text of data on one line holds no control character. -/
theorem printable_compact (datum : Datum) : Printable (compact datum) := by
  match datum with
  | .null | .unreadable | .flag true | .flag false =>
      simp [compact, Printable]
  | .whole number => exact printable_wholeText number
  | .decimal negative significand power =>
      exact printable_decimalText negative significand power
  | .text content => exact printable_quote content
  | .list entries =>
      exact .cons (by decide)
        ((printable_compactItems entries).append (.cons (by decide) .nil))
  | .record fields =>
      exact .cons (by decide)
        ((printable_compactFields fields).append (.cons (by decide) .nil))

theorem printable_compactItems (entries : List Datum) :
    Printable (compactItems entries) := by
  match entries with
  | [] => exact .nil
  | [entry] => exact printable_compact entry
  | entry :: next :: rest =>
      exact (printable_compact entry).append
        (.cons (by decide) (printable_compactItems (next :: rest)))

theorem printable_compactFields (fields : List (String × Datum)) :
    Printable (compactFields fields) := by
  match fields with
  | [] => exact .nil
  | [(name, content)] =>
      exact (printable_quote name).append (.cons (by decide) (printable_compact content))
  | (name, content) :: next :: rest =>
      exact (printable_quote name).append (.cons (by decide)
        ((printable_compact content).append
          (.cons (by decide) (printable_compactFields (next :: rest)))))

end

end OnboardStorage.Text.Json
