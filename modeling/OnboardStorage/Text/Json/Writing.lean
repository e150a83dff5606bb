import OnboardStorage.Datum
import OnboardStorage.Text.Json.Quoted

/-!
# Writing JSON text

Data is written either on one line without blanks or with one item or field
per line, indented by two blanks for each level.  Both keep the order of
fields.  What is unreadable is written as `null`.
-/

namespace OnboardStorage.Text.Json

/-- A whole number. -/
def wholeText (number : Int) : List Char :=
  match number with
  | .ofNat magnitude => decimalDigits magnitude
  | .negSucc magnitude => '-' :: decimalDigits (magnitude + 1)

/-- A number as significand and exponent. -/
def decimalText (negative : Bool) (significand : Nat) (exponent : Int) : List Char :=
  (if negative then ['-'] else []) ++ decimalDigits significand ++
    'e' :: wholeText exponent

mutual

/-- Data on one line. -/
def compact : Datum → List Char
  | .null | .unreadable => ['n', 'u', 'l', 'l']
  | .flag true => ['t', 'r', 'u', 'e']
  | .flag false => ['f', 'a', 'l', 's', 'e']
  | .whole number => wholeText number
  | .decimal negative significand exponent => decimalText negative significand exponent
  | .text content => quote content
  | .list entries => '[' :: (compactItems entries ++ [']'])
  | .record fields => '\x7b' :: (compactFields fields ++ ['\x7d'])

/-- Items separated by commas. -/
def compactItems : List Datum → List Char
  | [] => []
  | [entry] => compact entry
  | entry :: rest => compact entry ++ ',' :: compactItems rest

/-- Fields separated by commas. -/
def compactFields : List (String × Datum) → List Char
  | [] => []
  | [(name, content)] => quote name ++ ':' :: compact content
  | (name, content) :: rest =>
      quote name ++ ':' :: (compact content ++ ',' :: compactFields rest)

end

/-- A line break and the indentation of a level. -/
def newline (level : Nat) : List Char :=
  '\n' :: List.replicate (2 * level) ' '

mutual

/-- Data on several lines, standing at a given level. -/
def indented (level : Nat) : Datum → List Char
  | .list [] => ['[', ']']
  | .list (entry :: rest) =>
      '[' :: (indentedItems (level + 1) (entry :: rest) ++ newline level ++ [']'])
  | .record [] => ['\x7b', '\x7d']
  | .record (entry :: rest) =>
      '\x7b' :: (indentedFields (level + 1) (entry :: rest) ++ newline level ++ ['\x7d'])
  | .null | .unreadable => ['n', 'u', 'l', 'l']
  | .flag true => ['t', 'r', 'u', 'e']
  | .flag false => ['f', 'a', 'l', 's', 'e']
  | .whole number => wholeText number
  | .decimal negative significand exponent => decimalText negative significand exponent
  | .text content => quote content

/-- Items on lines of their own. -/
def indentedItems (level : Nat) : List Datum → List Char
  | [] => []
  | [entry] => newline level ++ indented level entry
  | entry :: rest =>
      newline level ++ indented level entry ++ ',' :: indentedItems level rest

/-- Fields on lines of their own. -/
def indentedFields (level : Nat) : List (String × Datum) → List Char
  | [] => []
  | [(name, content)] =>
      newline level ++ quote name ++ ':' :: ' ' :: indented level content
  | (name, content) :: rest =>
      newline level ++ quote name ++ ':' :: ' ' :: (indented level content ++
        ',' :: indentedFields level rest)

end

/-- The text of data on one line. -/
def write (content : Datum) : String :=
  String.ofList (compact content)

/-- The text of data on several lines. -/
def writeIndented (content : Datum) : String :=
  String.ofList (indented 0 content)

end OnboardStorage.Text.Json
