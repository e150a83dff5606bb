/-!
# Checks that pass

A check tries one refusal after another and passes when none applies.  The
lemmas here take off the first refusal, so that a check of any length is read
as the conjunction of what it asks for.
-/

namespace OnboardStorage

variable {α ε : Type} {condition : Prop} [Decidable condition]

theorem refusing_eq_none_iff {cause : α} {rest : Option α} :
    (if condition then some cause else rest) = none ↔ ¬ condition ∧ rest = none := by
  by_cases holds : condition
  · simp [holds]
  · simp [holds]

theorem requiring_eq_none_iff {cause : α} {rest : Option α} :
    (if condition then rest else some cause) = none ↔ condition ∧ rest = none := by
  by_cases holds : condition
  · simp [holds]
  · simp [holds]

theorem refusing_eq_ok_iff {cause : ε} {rest : Except ε α} {result : α} :
    (if condition then .error cause else rest) = .ok result ↔
      ¬ condition ∧ rest = .ok result := by
  by_cases holds : condition
  · simp [holds]
  · simp [holds]

end OnboardStorage
