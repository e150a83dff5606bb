import OnboardStorage.Datum
import OnboardStorage.DoublePrecision
import OnboardStorage.Text.Scan

/-!
# Numbers in TOML text

Whole numbers are decimal with an optional sign, or unsigned in base 16, 8 or
2 behind `0x`, `0o` and `0b`; they have to fit 64 bits with sign.  A number
with a fraction or an exponent is a decimal, and may not round to positive
infinity.  Single underscores may stand between digits.
-/

namespace OnboardStorage.Text.Toml

/-- Read the digits after a first one. -/
def moreDigits (isDigit : Char → Bool) : Reader (List Char)
  | [] => some ([], [])
  | '_' :: char :: rest =>
      if isDigit char then
        (moreDigits isDigit rest).map fun read => (char :: read.1, read.2)
      else none
  | char :: rest =>
      if char = '_' then none
      else if isDigit char then
        (moreDigits isDigit rest).map fun read => (char :: read.1, read.2)
      else some ([], char :: rest)

/-- Read one or more digits; underscores between them are dropped. -/
def digitRun (isDigit : Char → Bool) : Reader (List Char)
  | [] => none
  | char :: rest =>
      if isDigit char then
        (moreDigits isDigit rest).map fun read => (char :: read.1, read.2)
      else none

/-- The least number above those of 64 bits with sign. -/
def wholeBound : Int :=
  .ofNat (Nat.pow 2 63)

/-- A whole number of 64 bits with sign. -/
def whole? (number : Int) : Option Datum :=
  if -wholeBound ≤ number ∧ number < wholeBound then some (.whole number) else none

/-- Read a whole number in a base of at most 16, from after the mark of the
base. -/
def based (base : Nat) : Reader Datum := fun text => do
  let (read, rest) ←
    digitRun (fun char => (hexValue? char).any fun value => value < base) text
  let value :=
    read.foldl (fun number char => number * base + (hexValue? char).getD 0) 0
  return (← whole? value, rest)

/-- Read the digits after a decimal point, if there is one. -/
def fraction : Reader (List Char)
  | '.' :: rest => digitRun Char.isDigit rest
  | text => some ([], text)

/-- Read an exponent, if there is one. -/
def exponent? : Reader (Option Int)
  | [] => some (none, [])
  | mark :: rest =>
      if mark = 'e' ∨ mark = 'E' then
        let (negative, unsigned) :=
          match rest with
          | '-' :: after => (true, after)
          | '+' :: after => (false, after)
          | after => (false, after)
        (digitRun Char.isDigit unsigned).map fun read =>
          let power : Int := decimalValue read.1
          (some (if negative then -power else power), read.2)
      else some (none, mark :: rest)

/-- Read a number in base 10 without its sign. -/
def magnitude (negative : Bool) : Reader Datum := fun text => do
  let (integer, rest) ← digitRun Char.isDigit text
  if integer.head? = some '0' ∧ integer.length ≠ 1 then none
  let (part, rest) ← fraction rest
  let (power, rest) ← exponent? rest
  let value := decimalValue (integer ++ part)
  if part.isEmpty ∧ power.isNone then
    return (← whole? (if negative then -(value : Int) else value), rest)
  let scale : Int := power.getD 0 - part.length
  if negative ∨ DoublePrecision.inRange value scale then
    return (.decimal negative value scale, rest)
  else none

/-- Read an infinity, or a decimal that is no number.  Data has neither. -/
def special : Reader Datum
  | 'i' :: 'n' :: 'f' :: rest => some (.unreadable, rest)
  | 'n' :: 'a' :: 'n' :: rest => some (.unreadable, rest)
  | _ => none

/-- Read a number in base 10 or a special decimal, without its sign. -/
def unsigned (negative : Bool) : Reader Datum := fun text =>
  (special text).orElse fun _ => magnitude negative text

/-- Read a number. -/
def number : Reader Datum
  | '0' :: 'x' :: rest => based 16 rest
  | '0' :: 'o' :: rest => based 8 rest
  | '0' :: 'b' :: rest => based 2 rest
  | '-' :: rest => unsigned true rest
  | '+' :: rest => unsigned false rest
  | text => unsigned false text

end OnboardStorage.Text.Toml
