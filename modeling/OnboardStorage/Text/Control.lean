import OnboardStorage.Text.Scan

/-!
# Control characters on a terminal

Text from outside may hold characters that a terminal obeys.  The log shows
those as escapes; a complaint about arguments leaves them out, together with
the control sequences that they begin.
-/

namespace OnboardStorage.Text

/-! ## Escaping -/

/-- A byte as two hexadecimal digits in lower case. -/
def hexPair (value : Nat) : List Char :=
  [Nat.digitChar (value / 16), Nat.digitChar (value % 16)]

/-- Whether a terminal may obey a character of ASCII. -/
def isObeyed (char : Char) : Bool :=
  char = '\x1b' || char = '\x07' || char = '\x08' || char = '\x0c' || char = '\x7f'

/-- A character as the log shows it. -/
def shown (char : Char) : List Char :=
  if isObeyed char then '\\' :: 'x' :: hexPair char.toNat
  else if 0x80 ≤ char.toNat ∧ char.toNat ≤ 0x9F then
    '\\' :: 'u' :: '\x7b' :: hexPair char.toNat ++ ['\x7d']
  else [char]

/-- A text as the log shows it. -/
def escapeControls (text : String) : String :=
  String.ofList (text.toList.flatMap shown)

/-! ## Leaving out -/

/-- Where in a control sequence a text stands. -/
inductive ControlState where
  /-- Outside any sequence. -/
  | plain
  /-- Behind the character that opens a sequence. -/
  | opened
  /-- Behind the intermediate characters of a short sequence. -/
  | intermediate
  /-- In the parameters of a sequence. -/
  | parameters
  /-- In a command that a bell may end. -/
  | command
  /-- In a string that only a new sequence ends. -/
  | string
  deriving DecidableEq, Repr

namespace ControlState

/-- Whether a control character of ASCII moves the text on and is kept. -/
def isLayout (char : Char) : Bool :=
  char = '\t' || char = '\n' || char = '\x0c' || char = '\r'

/-- The state behind a character of a sequence. -/
def next : ControlState → Char → ControlState
  | .plain, _ => .plain
  | .opened, char =>
      if char < ' ' || '\x7f' ≤ char then .opened
      else if char < '0' then .intermediate
      else if char = '[' then .parameters
      else if char = ']' then .command
      else if char = 'P' || char = 'X' || char = '^' || char = '_' then .string
      else .plain
  | .intermediate, char =>
      if char < '0' || '\x7f' ≤ char then .intermediate else .plain
  | .parameters, char =>
      if char < '@' || '\x7f' ≤ char then .parameters else .plain
  | .command, char => if char = '\x07' then .plain else .command
  | .string, _ => .string

/-- Whether a character at a state is kept. -/
def keeps : ControlState → Char → Bool
  | .plain, char => isLayout char || (' ' ≤ char && char ≠ '\x7f')
  | .opened, char | .intermediate, char | .parameters, char => isLayout char
  | .command, _ | .string, _ => false

end ControlState

/-- The characters of a text that are kept, from a state on. -/
def keepPlain : ControlState → List Char → List Char
  | _, [] => []
  | state, char :: rest =>
      if char = '\x1b' then keepPlain .opened rest
      else if char = '\x18' ∨ char = '\x1a' then keepPlain .plain rest
      else if state.keeps char then char :: keepPlain .plain rest
      else keepPlain (state.next char) rest

/-- A text without control characters and control sequences. -/
def withoutControls (text : String) : String :=
  String.ofList (keepPlain .plain text.toList)

end OnboardStorage.Text
