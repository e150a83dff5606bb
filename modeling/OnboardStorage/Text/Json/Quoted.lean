import OnboardStorage.Text.Scan

/-!
# Quoted strings of JSON text

A string is written between quotation marks.  Quotation marks, backslashes and
control characters are escaped; every other character stands for itself.  The
reader takes every escape that the format knows and joins escaped surrogate
pairs.  A surrogate without a partner has the form of an escape, but the string
it stands in is no text.
-/

namespace OnboardStorage.Text.Json

/-- The character that a backslash and a letter stand for. -/
def escaped? : Char → Option Char
  | '"' => some '"'
  | '\\' => some '\\'
  | '/' => some '/'
  | 'b' => some '\x08'
  | 'f' => some '\x0c'
  | 'n' => some '\n'
  | 'r' => some '\r'
  | 't' => some '\t'
  | _ => none

/-- Whether a 16-bit unit opens a surrogate pair. -/
def isLeadingSurrogate (unit : Nat) : Bool :=
  0xD800 ≤ unit && unit < 0xDC00

/-- Whether a 16-bit unit closes a surrogate pair. -/
def isTrailingSurrogate (unit : Nat) : Bool :=
  0xDC00 ≤ unit && unit < 0xE000

/-- The code point of a surrogate pair. -/
def pairCode (leading trailing : Nat) : Nat :=
  0x10000 + (leading - 0xD800) * 0x400 + (trailing - 0xDC00)

/-- Read the codes of a string from after its opening quotation mark: code
points of characters, and the units that escapes give by number. -/
def codes : Reader (List Nat)
  | [] => none
  | '"' :: rest => some ([], rest)
  | '\\' :: 'u' :: a :: b :: c :: d :: rest =>
      match hexNumber? [a, b, c, d], codes rest with
      | some unit, some (others, after) => some (unit :: others, after)
      | _, _ => none
  | '\\' :: letter :: rest =>
      match escaped? letter, codes rest with
      | some char, some (others, after) => some (char.toNat :: others, after)
      | _, _ => none
  | char :: rest =>
      if char < ' ' then none
      else match codes rest with
        | some (others, after) => some (char.toNat :: others, after)
        | none => none

/-- A character in front of others, if all are there. -/
def joined? : Option Char → Option (List Char) → Option (List Char)
  | some char, some chars => some (char :: chars)
  | _, _ => none

/-- The characters of codes, unless a surrogate stands alone. -/
def joinPairs : List Nat → Option (List Char)
  | [] => some []
  | [code] => (scalar? code).map fun char => [char]
  | code :: next :: rest =>
      if isLeadingSurrogate code && isTrailingSurrogate next then
        joined? (scalar? (pairCode code next)) (joinPairs rest)
      else joined? (scalar? code) (joinPairs (next :: rest))

/-- Read a string from after its opening quotation mark.  A string of the right
form may still stand for no text. -/
def unquote : Reader (Option String) := fun text =>
  (codes text).map fun read => ((joinPairs read.1).map String.ofList, read.2)

/-- Hexadecimal digit, in lower case. -/
def hexDigit (value : Nat) : Char :=
  Nat.digitChar value

/-- A character as it is written inside a string. -/
def escape (char : Char) : List Char :=
  match char with
  | '"' => ['\\', '"']
  | '\\' => ['\\', '\\']
  | '\x08' => ['\\', 'b']
  | '\t' => ['\\', 't']
  | '\n' => ['\\', 'n']
  | '\x0c' => ['\\', 'f']
  | '\r' => ['\\', 'r']
  | other =>
      if other < ' ' then
        ['\\', 'u', '0', '0', hexDigit (other.toNat / 16), hexDigit (other.toNat % 16)]
      else [other]

/-- A string in quotation marks. -/
def quote (text : String) : List Char :=
  '"' :: (text.toList.flatMap escape ++ ['"'])

end OnboardStorage.Text.Json
