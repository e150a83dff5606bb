import OnboardStorage.LogFilter
import OnboardStorage.Text.Pattern
import OnboardStorage.Text.Slice
import OnboardStorage.Text.Space

/-!
# Reading log filters

A filter is written as directives separated by commas.  A directive is a
verbosity, or a source with or without one; in brackets behind the source it
may name a span, and in braces a field.

The marks that divide a directive are searched behind the white space at its
front, but its parts are cut out at the positions of the marks counted from its
very beginning.  White space in front thus shifts every part, and a shifted
part may begin or end inside a character.
-/

namespace OnboardStorage

open Text

namespace Verbosity

/-- The number that a text of digits stands for, with or without a plus sign. -/
def number? (text : List Char) : Option Nat :=
  let digits :=
    match text with
    | '+' :: rest => rest
    | rest => rest
  if !digits.isEmpty && digits.all Char.isDigit then some (decimalValue digits)
  else none

/-- The verbosity that a rank, or a name in letters of either case, stands
for. -/
def ofText? (text : List Char) : Option Verbosity :=
  all.find? fun verbosity =>
    number? text = some verbosity.rank || (String.ofList text).toLower = verbosity.name

/-- The verbosity behind an equals sign.  Nothing stands for the most. -/
def ofSetting? (text : List Char) : Option Verbosity :=
  if text.isEmpty then some .trace else ofText? text

end Verbosity

namespace LogField

/-- Whether a text is a decimal number without its sign. -/
def isDecimal (text : List Char) : Bool :=
  let (whole, rest) := digits text
  let (part, rest) :=
    match rest with
    | '.' :: rest => digits rest
    | rest => ([], rest)
  !(whole.isEmpty && part.isEmpty) &&
    match rest with
    | [] => true
    | mark :: rest =>
        let exponent :=
          match rest with
          | '+' :: rest | '-' :: rest => rest
          | rest => rest
        (mark = 'e' || mark = 'E') && !exponent.isEmpty && exponent.all Char.isDigit

/-- Whether a text may be compared with a value: as a number, or as a
pattern. -/
def isValue (text : List Char) : Bool :=
  Pattern.isWellFormed text ||
    match text with
    | '+' :: rest =>
        isDecimal rest || (String.ofList rest).toLower ∈ ["inf", "infinity", "nan"]
    | _ => false

/-- Read a field: its name and, between the first two equals signs, its
value. -/
def ofText? (text : List Char) : Option LogField :=
  let name := String.ofList (text.takeWhile fun char => char ≠ '=')
  match text.dropWhile fun char => char ≠ '=' with
  | [] => if text.isEmpty then none else some ⟨name, none⟩
  | _ :: rest =>
      let value := rest.takeWhile fun char => char ≠ '='
      if isValue value then some ⟨name, some (String.ofList value)⟩ else none

end LogField

namespace LogDirective

/-- Why a text is no directive. -/
inductive Fault where
  | malformed
  /-- A part begins or ends inside a character. -/
  | splitsCharacter
  deriving DecidableEq, Repr

/-- Cut a part out of a directive. -/
def part (text : List Char) (start stop : Nat) : Except Fault (List Char) :=
  match slice? start stop text with
  | some found => .ok found
  | none => .error .splitsCharacter

/-- The part of a directive from a position on. -/
def lastPart (text : List Char) (start : Nat) : Except Fault (List Char) :=
  part text start (width text)

/-- What is well formed, or the fault. -/
def formed {α : Type} : Option α → Except Fault α
  | some found => .ok found
  | none => .error .malformed

/-- Read what follows the brackets at a position: nothing or a verbosity. -/
def readSetting (text : List Char) (position : Nat) :
    List Char → Except Fault Verbosity
  | [] => .ok .trace
  | '=' :: _ => do formed (Verbosity.ofSetting? (← lastPart text (position + 1)))
  | _ => .error .malformed

/-- Read a field from the position behind the opening brace, and what follows
it. -/
def readField (text : List Char) (source : String) (span : Option String)
    (position : Nat) (rest : List Char) : Except Fault LogDirective := do
  let content := rest.takeWhile fun char => char ≠ '\x7d'
  let stop := position + width content
  match rest.dropWhile fun char => char ≠ '\x7d' with
  | [] => .error .malformed
  | _ :: rest =>
      let field ← formed (LogField.ofText? (← part text position stop))
      match rest with
      | ']' :: rest =>
          return ⟨source, span, some field, ← readSetting text (stop + 2) rest⟩
      | _ => .error .malformed

/-- Read a span from the position behind the opening bracket, and what follows
it. -/
def readSpan (text : List Char) (source : String) (position : Nat)
    (rest : List Char) : Except Fault LogDirective := do
  let content := rest.takeWhile fun char => char ≠ ']' && char ≠ '\x7b'
  let stop := position + width content
  match rest.dropWhile fun char => char ≠ ']' && char ≠ '\x7b' with
  | [] => .error .malformed
  | mark :: rest =>
      let name ← part text position stop
      if mark = ']' then
        return ⟨source, some (String.ofList name), none,
          ← readSetting text (stop + 1) rest⟩
      else
        readField text source
          (if name.isEmpty then none else some (String.ofList name)) (stop + 1) rest

/-- Whether a source or a verbosity may begin with a character. -/
def mayBegin (char : Char) : Bool :=
  isAlphanumeric char || char = '-' || char = ':' || char = '_'

/-- Read a directive. -/
def read (text : List Char) : Except Fault LogDirective :=
  match trim text with
  | [] => .error .malformed
  | '[' :: rest => readSpan text "" 1 rest
  | first :: others =>
      if !mayBegin first then .error .malformed
      else
        let name := (first :: others).takeWhile fun char => char ≠ '=' && char ≠ '['
        let stop := width name
        match (first :: others).dropWhile fun char => char ≠ '=' && char ≠ '[' with
        | [] =>
            match Verbosity.ofText? text with
            | some verbosity => .ok ⟨"", none, none, verbosity⟩
            | none => .ok ⟨String.ofList text, none, none, .trace⟩
        | mark :: rest => do
            let source := String.ofList (← part text 0 stop)
            if mark = '[' then readSpan text source (stop + 1) rest
            else
              return ⟨source, none, none,
                ← formed (Verbosity.ofSetting? (← lastPart text (stop + 1)))⟩

end LogDirective

namespace LogFilter

/-- The filter that a text describes, or none if a part of a directive begins
or ends inside a character.  The first fault decides, and a malformed directive
makes the filter admit everything up to `info`. -/
def ofText? (text : String) : Option LogFilter :=
  let parts := (text.splitOn ",").filter fun part => !part.isEmpty
  match parts.mapM fun part => LogDirective.read part.toList with
  | .ok directives => some ⟨directives⟩
  | .error .malformed => some (all .info)
  | .error .splitsCharacter => none

end LogFilter

end OnboardStorage
