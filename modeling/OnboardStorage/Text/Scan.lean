/-!
# Scanning lists of characters

Readers work on lists of characters and answer what they read together with
the characters after it.  This module holds the few scans that all of them
share.
-/

namespace OnboardStorage.Text

/-- What a reader makes of a text: a value and the text after it. -/
abbrev Reader (α : Type) :=
  List Char → Option (α × List Char)

/-- The longest run of decimal digits at the front, and the text after it. -/
def digits (text : List Char) : List Char × List Char :=
  (text.takeWhile Char.isDigit, text.dropWhile Char.isDigit)

/-- The number that decimal digits stand for. -/
def decimalValue (digits : List Char) : Nat :=
  Nat.ofDigitChars 10 digits 0

/-- Decimal digits of a number. -/
def decimalDigits (number : Nat) : List Char :=
  Nat.toDigits 10 number

@[simp]
theorem decimalValue_decimalDigits (number : Nat) :
    decimalValue (decimalDigits number) = number :=
  Nat.ofDigitChars_toDigits (by decide) (by decide)

/-- Value of a hexadecimal digit of either case. -/
def hexValue? (char : Char) : Option Nat :=
  if char.isDigit then some (char.toNat - '0'.toNat)
  else if 'a' ≤ char ∧ char ≤ 'f' then some (char.toNat - 'a'.toNat + 10)
  else if 'A' ≤ char ∧ char ≤ 'F' then some (char.toNat - 'A'.toNat + 10)
  else none

/-- The number that hexadecimal digits stand for, if they are all digits. -/
def hexNumber? (chars : List Char) : Option Nat :=
  chars.foldl
    (fun number char => do return (← number) * 16 + (← hexValue? char)) (some 0)

/-- The character of a code point, unless the code point is a surrogate or too
large. -/
def scalar? (code : Nat) : Option Char :=
  if h : code.isValidChar then some (Char.ofNatAux code h) else none

end OnboardStorage.Text
