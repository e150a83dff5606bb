import OnboardStorage.Text.Scan
import OnboardStorage.Text.Toml.Line

/-!
# Quoted strings of TOML text

A string is written in one of four forms.  Quotation marks allow escapes,
apostrophes do not; one of either keeps to its line, three in a row may span
several.  Every reader here starts after the opening marks.
-/

namespace OnboardStorage.Text.Toml

/-- Put a character before the text that was read. -/
def push (char : Char) (read : Option (List Char × List Char)) :
    Option (List Char × List Char) :=
  read.map fun read => (char :: read.1, read.2)

/-! ## Escapes -/

/-- The character that a backslash and a letter stand for. -/
def escaped? : Char → Option Char
  | '"' => some '"'
  | '\\' => some '\\'
  | 'b' => some '\x08'
  | 'f' => some '\x0c'
  | 'n' => some '\n'
  | 'r' => some '\r'
  | 't' => some '\t'
  | _ => none

/-- The character that hexadecimal digits stand for. -/
def coded? (digits : List Char) : Option Char :=
  (hexNumber? digits).bind scalar?

/-- Put a character, if there is one, before the text that was read. -/
def pushSome (char : Option Char) (read : Option (List Char × List Char)) :
    Option (List Char × List Char) :=
  char.bind fun char => push char read

/-! ## Strings on one line -/

/-- Read a string up to a quotation mark. -/
def basic : Reader (List Char)
  | [] => none
  | '"' :: rest => some ([], rest)
  | '\\' :: 'u' :: a :: b :: c :: d :: rest => pushSome (coded? [a, b, c, d]) (basic rest)
  | '\\' :: 'U' :: a :: b :: c :: d :: e :: f :: g :: h :: rest =>
      pushSome (coded? [a, b, c, d, e, f, g, h]) (basic rest)
  | '\\' :: letter :: rest => pushSome (escaped? letter) (basic rest)
  | char :: rest => if isPlain char then push char (basic rest) else none

/-- Read a string up to an apostrophe. -/
def literal : Reader (List Char)
  | [] => none
  | '\'' :: rest => some ([], rest)
  | char :: rest => if isPlain char then push char (literal rest) else none

/-! ## Strings on several lines -/

/-- Whether only blanks stand before the next line break. -/
def opensNextLine (text : List Char) : Bool :=
  (lineBreak? (skipBlank text)).isSome

/-- Read a string up to three quotation marks.  Up to two more stand before
them.  A backslash at the end of a line removes the line break with all blanks
and line breaks after it; `trimming` says whether the text starts after such a
backslash. -/
def basicLines (trimming : Bool) : Reader (List Char)
  | [] => none
  | '"' :: '"' :: '"' :: '"' :: '"' :: rest => some (['"', '"'], rest)
  | '"' :: '"' :: '"' :: '"' :: rest => some (['"'], rest)
  | '"' :: '"' :: '"' :: rest => some ([], rest)
  | '\r' :: '\n' :: rest =>
      if trimming then basicLines true rest else push '\n' (basicLines false rest)
  | '\\' :: 'u' :: a :: b :: c :: d :: rest =>
      pushSome (coded? [a, b, c, d]) (basicLines false rest)
  | '\\' :: 'U' :: a :: b :: c :: d :: e :: f :: g :: h :: rest =>
      pushSome (coded? [a, b, c, d, e, f, g, h]) (basicLines false rest)
  | '\\' :: letter :: rest =>
      if opensNextLine (letter :: rest) then basicLines true (letter :: rest)
      else pushSome (escaped? letter) (basicLines false rest)
  | char :: rest =>
      if trimming && (char = '\n' || isBlank char) then basicLines true rest
      else if char = '\n' || isPlain char then push char (basicLines false rest)
      else none

/-- Read a string up to three apostrophes.  Up to two more stand before them. -/
def literalLines : Reader (List Char)
  | [] => none
  | '\'' :: '\'' :: '\'' :: '\'' :: '\'' :: rest => some (['\'', '\''], rest)
  | '\'' :: '\'' :: '\'' :: '\'' :: rest => some (['\''], rest)
  | '\'' :: '\'' :: '\'' :: rest => some ([], rest)
  | '\r' :: '\n' :: rest => push '\n' (literalLines rest)
  | char :: rest =>
      if char = '\n' || isPlain char then push char (literalLines rest) else none

/-- The text after a line break that it may start with. -/
def skipLineBreak (text : List Char) : List Char :=
  (lineBreak? text).getD text

/-! ## Any form -/

/-- Read a string of any form, with its opening marks. -/
def quoted : Reader (List Char)
  | '"' :: '"' :: '"' :: rest => basicLines false (skipLineBreak rest)
  | '"' :: rest => basic rest
  | '\'' :: '\'' :: '\'' :: rest => literalLines (skipLineBreak rest)
  | '\'' :: rest => literal rest
  | _ => none

end OnboardStorage.Text.Toml
