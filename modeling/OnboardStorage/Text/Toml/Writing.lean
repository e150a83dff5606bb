import OnboardStorage.Text.Toml.Tree
import OnboardStorage.Text.Scan

/-!
# Writing TOML text

Statements are written one to a line, with an empty line before each header.
A string takes the plainest form that shows its text without escapes: on one
line between quotation marks or between apostrophes, then on several lines in
the same order.  A text that no such form shows is escaped.
-/

namespace OnboardStorage.Text.Toml

/-! ## Strings -/

/-- Whether a character can only be written as an escape. -/
def isControl (char : Char) : Bool :=
  (char < ' ' && char ≠ '\t' && char ≠ '\n') || char = '\x7f'

/-- The longest run of a character, given the length of the run before the
text. -/
def longestRun (mark : Char) (run : Nat) : List Char → Nat
  | [] => run
  | char :: rest =>
      if char = mark then longestRun mark (run + 1) rest
      else max run (longestRun mark 0 rest)

/-- Hexadecimal digit, in upper case. -/
def hexDigit (value : Nat) : Char :=
  (Nat.digitChar value).toUpper

/-- A character other than the quotation mark as it is written between
quotation marks. -/
def escape (multiline : Bool) (char : Char) : List Char :=
  match char with
  | '\\' => ['\\', '\\']
  | '\x08' => ['\\', 'b']
  | '\t' => ['\\', 't']
  | '\n' => if multiline then ['\n'] else ['\\', 'n']
  | '\x0c' => ['\\', 'f']
  | '\r' => ['\\', 'r']
  | other =>
      if isControl other then
        ['\\', 'u', '0', '0', hexDigit (other.toNat / 16), hexDigit (other.toNat % 16)]
      else [other]

/-- A text as it is written between quotation marks.  On several lines two
quotation marks may stand next to each other, on one line none stands
unescaped; `run` counts those that the text follows. -/
def escapeEach (multiline : Bool) (run : Nat) : List Char → List Char
  | [] => []
  | char :: rest =>
      if char = '"' then
        if multiline && run < 2 then '"' :: escapeEach multiline (run + 1) rest
        else '\\' :: '"' :: escapeEach multiline 0 rest
      else escape multiline char ++ escapeEach multiline 0 rest

/-- A text between marks, which a line break follows if the text has one. -/
def onLines (marks text written : List Char) : List Char :=
  marks ++ (if text.contains '\n' then ['\n'] else []) ++ written ++ marks

/-- Three marks in a row. -/
def tripled (mark : Char) : List Char :=
  [mark, mark, mark]

/-- A string in the plainest form that shows it. -/
def quote (content : String) : List Char :=
  let text := content.toList
  let escapeFree := !text.any isControl
  let quotationMarks := longestRun '"' 0 text
  let apostrophes := longestRun '\'' 0 text
  let backslash := text.contains '\\'
  let lines := text.contains '\n'
  if escapeFree && !backslash && quotationMarks = 0 && !lines then
    '"' :: (escapeEach false 0 text ++ ['"'])
  else if escapeFree && apostrophes = 0 && !lines then
    '\'' :: (text ++ ['\''])
  else if escapeFree && !backslash && quotationMarks ≤ 2 then
    onLines (tripled '"') text (escapeEach true 0 text)
  else if escapeFree && apostrophes ≤ 2 then
    onLines (tripled '\'') text text
  else if lines then onLines (tripled '"') text (escapeEach true 0 text)
  else '"' :: (escapeEach false 0 text ++ ['"'])

/-! ## Statements -/

/-- A value.  Whole numbers need to fit 64 bits with sign, and a list is
written only without items: the items of others are tables of their own. -/
def valueText : Datum → Option (List Char)
  | .flag true => some ['t', 'r', 'u', 'e']
  | .flag false => some ['f', 'a', 'l', 's', 'e']
  | .whole (.ofNat number) =>
      if number < Nat.pow 2 63 then some (decimalDigits number) else none
  | .text content => some (quote content)
  | .list [] => some ['[', ']']
  | _ => none

/-- The parts of a key, which are written without quotation marks. -/
def keyText (key : Key) : List Char :=
  ['.'].intercalate (key.path.map String.toList)

/-- A statement with its line. -/
def statementText : Statement → Option (List Char)
  | .table key => some ('\n' :: '[' :: (keyText key ++ [']', '\n']))
  | .element key => some ('\n' :: '[' :: '[' :: (keyText key ++ [']', ']', '\n']))
  | .entry key content =>
      (valueText content).map fun written =>
        keyText key ++ ' ' :: '=' :: ' ' :: (written ++ ['\n'])

/-- The text of statements, if each can be written. -/
def write (statements : List Statement) : Option String :=
  (statements.mapM statementText).map fun lines => String.ofList lines.flatten

end OnboardStorage.Text.Toml
