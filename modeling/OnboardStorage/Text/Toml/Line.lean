/-!
# Lines of TOML text

Statements end with their line.  Blanks are spaces and tabs, a comment runs to
the end of its line, and a line is broken by a line feed, which a carriage
return may precede.  A carriage return alone is not allowed anywhere, nor is
any other control character except the tab.
-/

namespace OnboardStorage.Text.Toml

/-- Blanks inside a line. -/
def isBlank (char : Char) : Bool :=
  char = ' ' || char = '\t'

/-- Characters that stand for themselves in comments and strings. -/
def isPlain (char : Char) : Bool :=
  char = '\t' || (' ' ≤ char && char ≠ '\x7f')

/-- The text after leading blanks. -/
def skipBlank (text : List Char) : List Char :=
  text.dropWhile isBlank

/-- The text after a comment, if it starts with one. -/
def skipComment : List Char → List Char
  | '#' :: rest => rest.dropWhile isPlain
  | text => text

/-- The text after a line break. -/
def lineBreak? : List Char → Option (List Char)
  | '\n' :: rest => some rest
  | '\r' :: '\n' :: rest => some rest
  | _ => none

/-- The text after the rest of a line that holds nothing but blanks and a
comment. -/
def endLine? (text : List Char) : Option (List Char) :=
  match skipComment (skipBlank text) with
  | [] => some []
  | rest => lineBreak? rest

/-- The text after blanks, comments and line breaks in any order; `comment`
says whether it starts within a comment. -/
def skipLines (comment : Bool) : List Char → List Char
  | [] => []
  | '\r' :: '\n' :: rest => skipLines false rest
  | char :: rest =>
      if char = '\n' then skipLines false rest
      else if comment then
        if isPlain char then skipLines true rest else char :: rest
      else if isBlank char then skipLines false rest
      else if char = '#' then skipLines true rest
      else char :: rest

end OnboardStorage.Text.Toml
