import OnboardStorage.Datum
import OnboardStorage.Text.Json.Quoted

/-!
# Reading JSON text

The reader accepts exactly one value, with blanks around it and nothing else.
It knows no comments and no trailing commas.  Three things are accepted by
their form but unreadable: a string with half a surrogate pair, a record with
such a name, and whatever lies more than 127 levels deep.

Nesting is the outer recursion: the reader of one level is given to the loops
over items and fields, which count down from a bound.  The length of the whole
text bounds every one of them.  Below the last level the brackets still open
are a list instead.
-/

namespace OnboardStorage.Text.Json

/-- Blanks that may stand between any two tokens. -/
def isBlank (char : Char) : Bool :=
  char = ' ' || char = '\n' || char = '\t' || char = '\r'

/-- The text after leading blanks. -/
def skipBlank (text : List Char) : List Char :=
  text.dropWhile isBlank

/-! ## Numbers -/

/-- Read the digits after a decimal point, if there is one. -/
def fraction : Reader (List Char)
  | '.' :: rest =>
      let (read, after) := digits rest
      if read.isEmpty then none else some (read, after)
  | rest => some ([], rest)

/-- Read an exponent, if there is one. -/
def exponent? : Reader (Option Int)
  | mark :: rest =>
      if mark = 'e' ∨ mark = 'E' then
        let (negative, unsigned) :=
          match rest with
          | '-' :: after => (true, after)
          | '+' :: after => (false, after)
          | after => (false, after)
        let (read, after) := digits unsigned
        if read.isEmpty then none
        else
          let power : Int := decimalValue read
          some (some (if negative then -power else power), after)
      else some (none, mark :: rest)
  | [] => some (none, [])

/-- Read a number without its sign. -/
def magnitude (negative : Bool) : Reader Datum := fun text =>
  let (whole, rest) := digits text
  if whole.isEmpty || (whole.head? == some '0' && whole.length != 1) then none
  else match fraction rest with
    | none => none
    | some (part, rest) =>
        match exponent? rest with
        | none => none
        | some (power, rest) =>
            let value := decimalValue (whole ++ part)
            if part.isEmpty && power.isNone && !(negative && value == 0) then
              some (.whole (if negative then -(value : Int) else value), rest)
            else
              some (.decimal negative value (power.getD 0 - part.length), rest)

/-- Read a number. -/
def number : Reader Datum
  | '-' :: rest => magnitude true rest
  | text => magnitude false text

/-! ## Parts of values -/

/-- Read a value that holds no other value. -/
def scalar : Reader Datum
  | 'n' :: 'u' :: 'l' :: 'l' :: rest => some (.null, rest)
  | 't' :: 'r' :: 'u' :: 'e' :: rest => some (.flag true, rest)
  | 'f' :: 'a' :: 'l' :: 's' :: 'e' :: rest => some (.flag false, rest)
  | '"' :: rest =>
      (unquote rest).map fun read => ((read.1.map .text).getD .unreadable, read.2)
  | text => number text

/-- Read one or more items separated by commas, up to and with the closing
bracket. -/
def items {α : Type} (item : Reader α) (closing : Char) : Nat → Reader (List α)
  | 0, _ => none
  | fuel + 1, text =>
      match item (skipBlank text) with
      | none => none
      | some (first, rest) =>
          match skipBlank rest with
          | [] => none
          | char :: after =>
              if char = closing then some ([first], after)
              else if char = ',' then
                (items item closing fuel after).map fun read => (first :: read.1, read.2)
              else none

/-- Read at most `bound` items from after the opening bracket. -/
def sequence {α : Type} (bound : Nat) (item : Reader α) (closing : Char) :
    Reader (List α) := fun text =>
  match skipBlank text with
  | [] => none
  | char :: rest =>
      if char = closing then some ([], rest)
      else items item closing bound (char :: rest)

/-- Read the name of a field, up to its value. -/
def name : Reader (Option String)
  | '"' :: rest =>
      match unquote rest with
      | none => none
      | some (given, rest) =>
          match skipBlank rest with
          | ':' :: rest => some (given, skipBlank rest)
          | _ => none
  | _ => none

/-- Read a field: its name, if that is a text, and its value. -/
def field (value : Reader Datum) : Reader (Option String × Datum) := fun text =>
  match name text with
  | none => none
  | some (given, rest) => (value rest).map fun read => ((given, read.1), read.2)

/-- A field that was read, if its name is a text. -/
def named : Option String × Datum → Option (String × Datum)
  | (some given, content) => some (given, content)
  | (none, _) => none

/-- The record of fields that were read. -/
def recordOf (fields : List (Option String × Datum)) : Datum :=
  match fields.mapM named with
  | some entries => .record entries
  | none => .unreadable

/-! ## Values nested too deep -/

/-- The closing bracket of a list or record that opens here, and the text
inside. -/
def opening? : Reader Char
  | '[' :: rest => some (']', rest)
  | '\x7b' :: rest => some ('\x7d', rest)
  | _ => none

/-- What may stand next inside brackets. -/
inductive Awaited where
  /-- An item, or the end of empty brackets. -/
  | first
  /-- An item behind a comma. -/
  | item
  /-- A comma, or the end. -/
  | comma
  deriving DecidableEq, Repr

/-- Pass over the name of a field where the brackets are those of a record. -/
def skipName (closing : Char) (text : List Char) : Option (List Char) :=
  if closing = '\x7d' then (name text).map Prod.snd else some text

/-- Pass over a text up to the last of the closing brackets that are still to
come, the innermost first.  Its form is checked, at any depth.  Each step takes
at least one character. -/
def skipNested : Nat → List Char → Awaited → Reader Unit
  | _, [], _, text => some ((), text)
  | 0, _, _, _ => none
  | fuel + 1, closing :: outer, awaited, text =>
      match skipBlank text with
      | [] => none
      | char :: rest =>
          if char = closing ∧ awaited ≠ .item then skipNested fuel outer .comma rest
          else if awaited = .comma then
            if char = ',' then skipNested fuel (closing :: outer) .item rest else none
          else match skipName closing (char :: rest) with
            | none => none
            | some valueText =>
                match opening? valueText with
                | some (inner, rest) =>
                    skipNested fuel (inner :: closing :: outer) .first rest
                | none =>
                    match scalar valueText with
                    | none => none
                    | some (_, rest) => skipNested fuel (closing :: outer) .comma rest

/-- Pass over a list or record of at most `bound` characters, or read any other
value. -/
def skipOrRead (bound : Nat) : Reader Datum := fun text =>
  match opening? text with
  | none => scalar text
  | some (closing, rest) =>
      (skipNested bound [closing] .first rest).map fun read =>
        (.unreadable, read.2)

/-! ## Values -/

/-- Read a value, `depth` levels of which are kept, from a text of at most
`bound` characters. -/
def value (bound : Nat) : Nat → Reader Datum
  | 0 => skipOrRead bound
  | depth + 1 => fun text =>
      match text with
      | '[' :: rest =>
          (sequence bound (value bound depth) ']' rest).map fun read =>
            (.list read.1, read.2)
      | '\x7b' :: rest =>
          (sequence bound (field (value bound depth)) '\x7d' rest).map fun read =>
            (recordOf read.1, read.2)
      | other => scalar other

/-- Levels of lists and records that are kept. -/
def maxDepth : Nat :=
  127

/-- The data of a text. -/
def parse (text : String) : Option Datum :=
  let chars := text.toList
  match value chars.length maxDepth (skipBlank chars) with
  | none => none
  | some (read, rest) => if (skipBlank rest).isEmpty then some read else none

end OnboardStorage.Text.Json
