import OnboardStorage.Text.Scan

/-!
# Dates and times in TOML text

A moment is a date, a time of day, or a date followed by a time of day and
perhaps an offset.  Nothing here is interested in which moment it is, only in
where its text ends and whether the calendar and the clock have it.
-/

namespace OnboardStorage.Text.Toml

/-- Read a number of exactly `count` digits. -/
def digitGroup (count : Nat) : Reader Nat := fun text =>
  let read := text.take count
  if read.length = count ∧ read.all Char.isDigit then
    some (decimalValue read, text.drop count)
  else none

/-- Read a number of two digits that is at most `most`. -/
def twoDigits (most : Nat) : Reader Nat := fun text =>
  (digitGroup 2 text).filter fun read => read.1 ≤ most

/-- Whether a year has a 29th of February. -/
def isLeapYear (year : Nat) : Bool :=
  year % 4 = 0 && (year % 100 ≠ 0 || year % 400 = 0)

/-- Number of days in a month. -/
def daysInMonth (year month : Nat) : Nat :=
  if month = 2 then if isLeapYear year then 29 else 28
  else if month = 4 ∨ month = 6 ∨ month = 9 ∨ month = 11 then 30
  else 31

/-- The text after a given character. -/
def after? (expected : Char) : List Char → Option (List Char)
  | [] => none
  | char :: rest => if char = expected then some rest else none

/-- The text after a date. -/
def date? (text : List Char) : Option (List Char) := do
  let (year, rest) ← digitGroup 4 text
  let (month, rest) ← twoDigits 12 (← after? '-' rest)
  let (day, rest) ← twoDigits (daysInMonth year month) (← after? '-' rest)
  if month = 0 ∨ day = 0 then none else some rest

/-- The text after the fraction of a second, if there is one. -/
def secondFraction (text : List Char) : List Char :=
  match text with
  | '.' :: rest =>
      let (read, rest) := digits rest
      if read.isEmpty then text else rest
  | _ => text

/-- The text after a time of day. -/
def time? (text : List Char) : Option (List Char) := do
  let (_, rest) ← twoDigits 23 text
  let (_, rest) ← twoDigits 59 (← after? ':' rest)
  let (_, rest) ← twoDigits 60 (← after? ':' rest)
  return secondFraction rest

/-- The text after an offset from universal time. -/
def offset? : List Char → Option (List Char)
  | [] => none
  | char :: rest =>
      if char = 'Z' ∨ char = 'z' then some rest
      else if char = '+' ∨ char = '-' then do
        let (_, rest) ← twoDigits 23 rest
        let (_, rest) ← twoDigits 59 (← after? ':' rest)
        return rest
      else none

/-- The text after a time of day that follows a date, if one does. -/
def timeOfDate (text : List Char) : List Char :=
  match text with
  | [] => []
  | char :: rest =>
      if char = 'T' ∨ char = 't' ∨ char = ' ' then
        match time? rest with
        | some rest => (offset? rest).getD rest
        | none => text
      else text

/-- The text after a moment. -/
def moment? (text : List Char) : Option (List Char) :=
  match date? text with
  | some rest => some (timeOfDate rest)
  | none => time? text

end OnboardStorage.Text.Toml
