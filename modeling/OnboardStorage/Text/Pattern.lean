import OnboardStorage.Text.Alphanumeric
import OnboardStorage.Text.Scan

/-!
# Form of search patterns

A search pattern is a regular expression.  Only its form matters here.  It is
read without any table of characters: classes that need one, and letters of
either case, are ill formed as long as the pattern matches characters rather
than bytes.  So are back references, looking around, boundaries of words among
characters, and repetition counts, which no brace of this reader closes.
-/

namespace OnboardStorage.Text.Pattern

/-- How a pattern is read from some point on. -/
structure Mode where
  /-- Whether letters stand for both of their cases. -/
  ignoresCase : Bool
  /-- Whether the pattern matches characters rather than bytes. -/
  byCharacter : Bool
  deriving DecidableEq, Repr

namespace Mode

/-- How a pattern is read at its start. -/
def standard : Mode :=
  ⟨false, true⟩

/-- Whether a table of cases would be needed. -/
def needsCases (mode : Mode) : Bool :=
  mode.ignoresCase && mode.byCharacter

/-- Turn a letter's setting on or off. -/
def set (mode : Mode) (letter : Char) (on : Bool) : Mode :=
  match letter with
  | 'i' => { mode with ignoresCase := on }
  | 'u' => { mode with byCharacter := on }
  | _ => mode

end Mode

/-! ## Escapes -/

/-- What an escape stands for. -/
inductive Atom where
  | literal (char : Char)
  /-- A class of characters. -/
  | set
  /-- A place between characters. -/
  | place
  deriving DecidableEq, Repr

/-- The character that a letter stands for behind a backslash. -/
def letterEscape? : Char → Option Char
  | 'a' => some '\x07'
  | 'f' => some '\x0c'
  | 't' => some '\t'
  | 'n' => some '\n'
  | 'r' => some '\r'
  | 'v' => some '\x0b'
  | _ => none

/-- Read hexadecimal digits as the code of a character. -/
def coded (count : Nat) : Reader Atom := fun text =>
  if (text.take count).length = count then
    ((hexNumber? (text.take count)).bind scalar?).map fun char =>
      (.literal char, text.drop count)
  else none

/-- Read an escape from after its backslash. -/
def escape (mode : Mode) : Reader Atom
  | [] => none
  | letter :: rest =>
      match letter with
      | 'x' => coded 2 rest
      | 'u' => coded 4 rest
      | 'U' => coded 8 rest
      | 'A' | 'z' => some (.place, rest)
      | 'b' | 'B' | '<' | '>' => if mode.byCharacter then none else some (.place, rest)
      | 'd' | 's' | 'w' => if mode.byCharacter then none else some (.set, rest)
      | char =>
          match letterEscape? char with
          | some meant => some (.literal meant, rest)
          | none =>
              if char.toNat < 0x80 && !char.isAlphanum then some (.literal char, rest)
              else none

/-! ## Brackets -/

/-- Read a character or an escape inside brackets. -/
def setAtom (mode : Mode) : Reader Atom
  | [] => none
  | '\\' :: rest => escape mode rest
  | char :: rest => some (.literal char, rest)

/-- Pass over a character, a class or a range inside brackets. -/
def setItem (mode : Mode) (text : List Char) : Option (List Char) :=
  match setAtom mode text with
  | none | some (.place, _) => none
  | some (first, '-' :: next) =>
      match next with
      | [] => none
      | ']' :: _ | '-' :: _ => some ('-' :: next)
      | _ =>
          match first, setAtom mode next with
          | .literal lowest, some (.literal highest, rest) =>
              if lowest ≤ highest then some rest else none
          | _, _ => none
  | some (_, rest) => some rest

/-- Names of classes inside brackets. -/
def classNames : List String :=
  ["alnum", "alpha", "ascii", "blank", "cntrl", "digit", "graph", "lower", "print",
    "punct", "space", "upper", "word", "xdigit"]

/-- Pass over a named class from after its opening bracket. -/
def namedClass? : List Char → Option (List Char)
  | ':' :: text =>
      let negated :=
        match text with
        | '^' :: rest => rest
        | rest => rest
      let name := negated.takeWhile fun char => char ≠ ':'
      match negated.dropWhile fun char => char ≠ ':' with
      | ':' :: ']' :: rest => if String.ofList name ∈ classNames then some rest else none
      | _ => none
  | _ => none

/-- Pass over what may only stand directly behind an opening bracket: a mark of
negation, dashes, or a closing bracket that stands for itself. -/
def openSet (mode : Mode) (text : List Char) : Option (List Char) :=
  let items := fun (text : List Char) =>
    match text with
    | ']' :: rest => rest
    | '-' :: _ => text.dropWhile fun char => char = '-'
    | other => other
  if mode.needsCases then none
  else match text with
    | '^' :: rest => if mode.byCharacter then some (items rest) else none
    | rest => some (items rest)

/-- Pass over the rest of brackets, `outer` more of which are open around
them. -/
def setBody (mode : Mode) : Nat → Nat → List Char → Option (List Char)
  | 0, _, _ => none
  | fuel + 1, outer, text =>
      match text with
      | [] => none
      | '[' :: rest =>
          match namedClass? rest with
          | some rest => setBody mode fuel outer rest
          | none => (openSet mode rest).bind (setBody mode fuel (outer + 1))
      | ']' :: rest =>
          match outer with
          | 0 => some rest
          | outer + 1 => setBody mode fuel outer rest
      | '&' :: '&' :: rest | '-' :: '-' :: rest | '~' :: '~' :: rest =>
          setBody mode fuel outer rest
      | other => (setItem mode other).bind (setBody mode fuel outer)

/-! ## Groups -/

/-- What an opening parenthesis opens. -/
inductive Opening where
  /-- A group, read in a mode of its own. -/
  | group (mode : Mode)
  /-- Nothing; the mode changes to the end of the group around. -/
  | change (mode : Mode)
  deriving DecidableEq, Repr

/-- Letters of the settings that a group may have. -/
def settingLetters : List Char :=
  ['i', 'm', 's', 'U', 'u', 'R', 'x']

/-- Whether there are only letters of settings, none of them twice. -/
def areSettings : List Char → Bool
  | [] => true
  | letter :: rest =>
      settingLetters.contains letter && !rest.contains letter && areSettings rest

/-- The mode behind settings: letters turn them on, and those behind a dash turn
them off.  No letter is given twice, and a dash is not the last. -/
def settings? (mode : Mode) (text : List Char) : Option Mode :=
  let on := text.takeWhile fun char => char ≠ '-'
  let mode := on.foldl (fun mode letter => mode.set letter true) mode
  match text.dropWhile fun char => char ≠ '-' with
  | [] => if areSettings on then some mode else none
  | _ :: off =>
      if !off.isEmpty && areSettings (on ++ off) then
        some (off.foldl (fun mode letter => mode.set letter false) mode)
      else none

/-- Whether a text may name a group. -/
def isGroupName : List Char → Bool
  | [] => false
  | first :: rest =>
      (first = '_' || (isAlphanumeric first && !first.isDigit)) &&
        rest.all fun char =>
          isAlphanumeric char || char = '_' || char = '.' || char = '[' || char = ']'

/-- Read the name of a group from after the bracket that opens it. -/
def named (mode : Mode) : Reader Opening := fun text =>
  match text.dropWhile fun char => char ≠ '>' with
  | [] => none
  | _ :: rest =>
      if isGroupName (text.takeWhile fun char => char ≠ '>') then
        some (.group mode, rest)
      else none

/-- Read what makes a group more than parentheses, from after the first of
them. -/
def opening (mode : Mode) : Reader Opening
  | '?' :: 'P' :: '<' :: rest | '?' :: '<' :: rest => named mode rest
  | '?' :: text =>
      let given := text.takeWhile fun char => char ≠ ':' && char ≠ ')'
      match text.dropWhile fun char => char ≠ ':' && char ≠ ')' with
      | ':' :: rest => (settings? mode given).map fun mode => (.group mode, rest)
      | ')' :: rest =>
          if given.isEmpty then none
          else (settings? mode given).map fun mode => (.change mode, rest)
      | _ => none
  | rest => some (.group mode, rest)

/-! ## Patterns -/

/-- Whether a text goes on as a pattern.  `outer` are the modes around the open
groups, and `repeatable` tells whether there is something to repeat. -/
def continues : Nat → List Mode → Mode → Bool → List Char → Bool
  | 0, _, _, _, _ => false
  | _ + 1, outer, _, _, [] => outer.isEmpty
  | fuel + 1, outer, mode, repeatable, char :: rest =>
      match char with
      | '(' =>
          match opening mode rest with
          | none => false
          | some (.group inner, rest) => continues fuel (mode :: outer) inner false rest
          | some (.change changed, rest) => continues fuel outer changed false rest
      | ')' =>
          match outer with
          | [] => false
          | mode :: outer => continues fuel outer mode true rest
      | '|' => continues fuel outer mode false rest
      | '[' =>
          match (openSet mode rest).bind (setBody mode rest.length 0) with
          | none => false
          | some rest => continues fuel outer mode true rest
      | '?' | '*' | '+' =>
          repeatable &&
            match rest with
            | '?' :: rest => continues fuel outer mode true rest
            | rest => continues fuel outer mode true rest
      | '\x7b' => false
      | '\\' =>
          match escape mode rest with
          | none => false
          | some (.literal _, rest) =>
              !mode.needsCases && continues fuel outer mode true rest
          | some (_, rest) => continues fuel outer mode true rest
      | '.' => mode.byCharacter && continues fuel outer mode true rest
      | '^' | '$' => continues fuel outer mode true rest
      | _ => !mode.needsCases && continues fuel outer mode true rest

/-- Whether a text is a pattern.  Each step takes at least one character. -/
def isWellFormed (text : List Char) : Bool :=
  continues (text.length + 1) [] .standard false text

end OnboardStorage.Text.Pattern
