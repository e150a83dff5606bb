/-!
# Data of written records

Requests, snapshots, scripts and configurations are read from, and written as,
trees of data.  A `Datum` is such a tree before anything is known about the
record it stands for: fields keep their order and may be repeated, and numbers
keep their sign and exponent.  Whole numbers are unbounded here; the fields
that hold them are not.
-/

namespace OnboardStorage

/-- A tree of data. -/
inductive Datum where
  | null
  | flag (value : Bool)
  | whole (value : Int)
  /-- A number written with a fraction or an exponent, or the negative zero:
  the significand times that power of ten. -/
  | decimal (negative : Bool) (significand : Nat) (exponent : Int)
  | text (value : String)
  | list (items : List Datum)
  | record (fields : List (String × Datum))
  /-- Text that has the form of data and stands for none.  It may be passed
  over, and nothing is read from it. -/
  | unreadable
  deriving Repr

namespace Datum

/-- The datum of a natural number. -/
def ofNat (number : Nat) : Datum :=
  .whole number

/-- The datum of a value that may be absent. -/
def ofOption {α : Type} (write : α → Datum) : Option α → Datum
  | none => .null
  | some value => write value

/-! ## Order of fields -/

/-- Put a field before the first one with a later name. -/
def insertField (field : String × Datum) :
    List (String × Datum) → List (String × Datum)
  | [] => [field]
  | other :: rest =>
      if field.1 < other.1 then field :: other :: rest
      else other :: insertField field rest

mutual

/-- The same data with the fields of every record in ascending order. -/
def sorted : Datum → Datum
  | .list items => .list (sortedItems items)
  | .record fields => .record (sortedFields fields)
  | other => other

/-- `sorted` on each item. -/
def sortedItems : List Datum → List Datum
  | [] => []
  | item :: rest => sorted item :: sortedItems rest

/-- `sorted` on each field, in ascending order. -/
def sortedFields : List (String × Datum) → List (String × Datum)
  | [] => []
  | (name, value) :: rest => insertField (name, sorted value) (sortedFields rest)

end

end Datum

end OnboardStorage
