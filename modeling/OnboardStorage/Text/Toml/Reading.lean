import OnboardStorage.Text.Toml.Moment
import OnboardStorage.Text.Toml.Number
import OnboardStorage.Text.Toml.Quoted
import OnboardStorage.Text.Toml.Tree

/-!
# Reading TOML text

A text is a sequence of statements, one to a line.  They are read first and
carried out on a tree of tables afterwards; a text is refused when it is not
such a sequence or when the tree does not take one of its statements.

Lists and tables written in line may be nested 79 levels deep, and a key has
at most 79 parts.  Loops count down from a bound, and the length of the whole
text bounds every one of them.
-/

namespace OnboardStorage.Text.Toml

/-- Levels of values that a text may nest, and parts that a key may have. -/
def maxDepth : Nat :=
  79

/-! ## Keys -/

/-- Characters of a key that is not quoted. -/
def isBare (char : Char) : Bool :=
  char.isAlphanum || char = '_' || char = '-'

/-- Read one part of a key. -/
def keyPart : Reader String
  | '"' :: rest => (basic rest).map fun read => (String.ofList read.1, read.2)
  | '\'' :: rest => (literal rest).map fun read => (String.ofList read.1, read.2)
  | text =>
      let part := text.takeWhile isBare
      if part.isEmpty then none
      else some (String.ofList part, text.dropWhile isBare)

/-- Read a key of at most `parts` parts, with blanks around each. -/
def key : Nat → Reader Key
  | 0, _ => none
  | parts + 1, text =>
      match keyPart (skipBlank text) with
      | none => none
      | some (name, rest) =>
          match skipBlank rest with
          | '.' :: rest => (key parts rest).map fun read => (read.1.under name, read.2)
          | rest => some (.plain name, rest)

/-! ## Values -/

/-- Read a value that holds no other value. -/
def scalar : Reader Datum
  | 't' :: 'r' :: 'u' :: 'e' :: rest => some (.flag true, rest)
  | 'f' :: 'a' :: 'l' :: 's' :: 'e' :: rest => some (.flag false, rest)
  | text =>
      match quoted text with
      | some (content, rest) => some (.text (String.ofList content), rest)
      | none =>
          match moment? text with
          | some rest => some (.record [], rest)
          | none => number text

/-- Read items up to and with the closing bracket, from where an item or the
bracket may stand. -/
def items (item : Reader Datum) : Nat → Reader (List Datum)
  | 0, _ => none
  | fuel + 1, text =>
      match skipLines false text with
      | [] => none
      | char :: rest =>
          if char = ']' then some ([], rest)
          else match item (char :: rest) with
            | none => none
            | some (first, rest) =>
                match skipLines false rest with
                | ',' :: rest =>
                    (items item fuel rest).map fun read => (first :: read.1, read.2)
                | ']' :: rest => some ([first], rest)
                | _ => none

/-- Read a key, the equals sign and a value. -/
def assignment (value : Reader Datum) : Reader (Key × Datum) := fun text =>
  match key maxDepth text with
  | some (key, '=' :: rest) =>
      (value (skipBlank rest)).map fun read => ((key, read.1), read.2)
  | _ => none

/-- Read one or more entries up to and with the closing brace. -/
def entries (value : Reader Datum) : Nat → Reader (List (Key × Datum))
  | 0, _ => none
  | fuel + 1, text =>
      match assignment value text with
      | none => none
      | some (first, rest) =>
          match skipBlank rest with
          | ',' :: rest =>
              (entries value fuel rest).map fun read => (first :: read.1, read.2)
          | '\x7d' :: rest => some ([first], rest)
          | _ => none

/-- Read at most `bound` entries of a table from after its opening brace. -/
def inlineTable (bound : Nat) (value : Reader Datum) : Reader (List (Key × Datum)) :=
  fun text =>
    match skipBlank text with
    | '\x7d' :: rest => some ([], rest)
    | _ => entries value bound text

/-- Read a value that is nested at most `depth` levels deep, from a text of at
most `bound` characters. -/
def value (bound : Nat) : Nat → Reader Datum
  | 0 => scalar
  | depth + 1 => fun text =>
      match text with
      | '[' :: rest =>
          (items (value bound depth) bound rest).map fun read =>
            (.list read.1, read.2)
      | '\x7b' :: rest =>
          match inlineTable bound (value bound depth) rest with
          | none => none
          | some (entries, rest) =>
              (assembleInline entries).map fun table => (table, rest)
      | other => scalar other

/-! ## Statements -/

/-- Read the key of a header and the closing brackets. -/
def header (closing : List Char) : Reader Key := fun text =>
  match key maxDepth text with
  | none => none
  | some (key, rest) =>
      if closing.isPrefixOf rest then some (key, rest.drop closing.length)
      else none

/-- Read a statement from a text of at most `bound` characters. -/
def statement (bound : Nat) : Reader Statement
  | '[' :: '[' :: rest =>
      (header [']', ']'] rest).map fun read => (.element read.1, read.2)
  | '[' :: rest => (header [']'] rest).map fun read => (.table read.1, read.2)
  | text =>
      (assignment (value bound maxDepth) text).map fun read =>
        (.entry read.1.1 read.1.2, read.2)

/-- Read every statement of a text that has at most `fuel` lines and at most
`bound` characters. -/
def statements (bound : Nat) : Nat → List Char → Option (List Statement)
  | 0, text => if text.isEmpty then some [] else none
  | fuel + 1, text =>
      if text.isEmpty then some []
      else match endLine? text with
        | some rest => statements bound fuel rest
        | none =>
            match statement bound (skipBlank text) with
            | none => none
            | some (first, rest) =>
                match endLine? rest with
                | none => none
                | some rest => (statements bound fuel rest).map (first :: ·)

/-- The text without the mark of its encoding that it may start with. -/
def skipEncodingMark : List Char → List Char
  | '\ufeff' :: rest => rest
  | text => text

/-- The data of a text. -/
def parse (text : String) : Option Datum :=
  let chars := skipEncodingMark text.toList
  (statements chars.length chars.length chars).bind assemble

end OnboardStorage.Text.Toml
