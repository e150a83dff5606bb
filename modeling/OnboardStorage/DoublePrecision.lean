/-!
# Decimal numbers in double precision

A number of double precision keeps 53 binary digits, counted from its first
one, and stays below a bound.  This module rounds natural numbers to so many
digits and says which decimal numbers stay below the bound when they are read.

A reader may round a decimal number once.  Or it may round twice: first the
leading digits, as many as fit 64 bits, then their product with the power of
ten that is left.  Near the bound the two differ.
-/

namespace OnboardStorage.DoublePrecision

/-- Binary digits that a number keeps. -/
def keptDigits : Nat :=
  53

/-- The nearest number with no more than the kept digits; of two that are as
near, the one whose last kept digit is zero. -/
def nearest (number : Nat) : Nat :=
  let unit := Nat.pow 2 (number.log2 + 1 - keptDigits)
  let kept := number / unit
  let lost := number % unit
  if unit < 2 * lost ∨ unit = 2 * lost ∧ kept % 2 = 1 then (kept + 1) * unit
  else kept * unit

/-- The least magnitude that is no longer rounded to a number. -/
def bound : Nat :=
  Nat.pow 2 1024 - Nat.pow 2 970

/-- The largest power of ten below the bound. -/
def largestPower : Nat :=
  308

/-- Whether a significand times a power of ten is below the bound.  A negative
exponent of more than the number of digits changes nothing, and one above the
largest power leaves room for zero only. -/
def inRange (significand : Nat) (exponent : Int) : Bool :=
  significand == 0 ||
    match exponent with
    | .ofNat power => power ≤ largestPower && significand * Nat.pow 10 power < bound
    | .negSucc power =>
        let digits := (Nat.toDigits 10 significand).length
        significand < bound * Nat.pow 10 (min (power + 1) digits)

/-! ## Rounding twice -/

/-- Leave out final digits of a significand until it fits 64 bits.  Each of
them adds one to the exponent. -/
def leading (significand : Nat) (exponent : Int) : Nat × Int :=
  if significand < UInt64.size then (significand, exponent)
  else leading (significand / 10) (exponent + 1)
termination_by significand
decreasing_by
  have hsize : UInt64.size = 18446744073709551616 := rfl
  omega

/-- Whether a significand times a power of ten is below the bound when it is
rounded twice. -/
def inRangeTwice (significand : Nat) (exponent : Int) : Bool :=
  match leading significand exponent with
  | (0, _) | (_, .negSucc _) => true
  | (digits, .ofNat power) =>
      power ≤ largestPower && nearest digits * nearest (Nat.pow 10 power) < bound

/-- Numbers of no more than the kept digits are not rounded. -/
theorem nearest_eq_self {number : Nat} (hsmall : number < Nat.pow 2 keptDigits) :
    nearest number = number := by
  have hlog : number.log2 + 1 - keptDigits = 0 := by
    by_cases hzero : number = 0
    · subst hzero
      decide
    · have hless := (Nat.log2_lt hzero).2 hsmall
      omega
  simp [nearest, hlog, Nat.mod_one]

end OnboardStorage.DoublePrecision
