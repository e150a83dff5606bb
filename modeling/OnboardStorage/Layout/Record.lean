import OnboardStorage.Datum

/-!
# Records and their fields

A record is written as named fields in any order or, shorter, as the list of
its values in the order of its layout.  Names that a layout does not know are
passed over, a known name may occur only once, and a field is absent, present
or, where its reader says so, `null`.

How strict the reading is depends on where the data stands: `Origin` names the
three cases and what each of them allows.
-/

namespace OnboardStorage

/-- Where the data of a record stands. -/
inductive Origin where
  /-- In JSON text, or in a value that was read from it. -/
  | plain
  /-- Inside a record that was held back until its tag, or the owner of its
  fields, was known. -/
  | held
  /-- In a configuration file. -/
  | table
  deriving DecidableEq, Repr

namespace Origin

/-- Whether a list of values may be longer than the layout. -/
def allowsSurplus : Origin → Bool
  | .table => true
  | _ => false

/-- Whether the name of an alternative may carry an empty record. -/
def allowsEmptyContent : Origin → Bool
  | .held => true
  | _ => false

/-- Whether a tag may be the position of an alternative. -/
def allowsPosition : Origin → Bool
  | .held => true
  | _ => false

end Origin

namespace Datum

/-! ## Single values -/

/-- A truth value. -/
def flag? : Datum → Option Bool
  | .flag value => some value
  | _ => none

/-- A text. -/
def text? : Datum → Option String
  | .text value => some value
  | _ => none

/-- A whole number from zero up to, but not including, `bound`. -/
def natural? (bound : Nat) : Datum → Option Nat
  | .whole (.ofNat value) => if value < bound then some value else none
  | _ => none

/-- A number of 8 bits. -/
def word8? (datum : Datum) : Option UInt8 :=
  (datum.natural? UInt8.size).map Nat.toUInt8

/-- A number of 16 bits. -/
def word16? (datum : Datum) : Option UInt16 :=
  (datum.natural? UInt16.size).map Nat.toUInt16

/-- A number of 32 bits. -/
def word32? (datum : Datum) : Option UInt32 :=
  (datum.natural? UInt32.size).map Nat.toUInt32

/-- A number of 64 bits. -/
def word64? (datum : Datum) : Option UInt64 :=
  (datum.natural? UInt64.size).map Nat.toUInt64

/-- A list of values of one kind. -/
def listOf? {α : Type} (read : Datum → Option α) : Datum → Option (List α)
  | .list items => items.mapM read
  | _ => none

/-- The name of an alternative without content, alone or as the only field of
a record. -/
def choice? (origin : Origin) : Datum → Option String
  | .text name => some name
  | .record [(name, .null)] => some name
  | .record [(name, .record [])] =>
      if origin.allowsEmptyContent then some name else none
  | _ => none

/-- The alternative, among those listed, that the data names. -/
def oneOf? {α : Type} (origin : Origin) (alternatives : List α)
    (name : α → String) (datum : Datum) : Option α :=
  (datum.choice? origin).bind fun given =>
    alternatives.find? fun alternative => name alternative = given

/-! ## Fields -/

/-- The values of a record by the names of its layout. -/
def fields? (origin : Origin) (layout : List String) :
    Datum → Option (String → Option Datum)
  | .record fields =>
      if layout.all fun name => (fields.filter fun field => field.1 = name).length ≤ 1
      then some fun name => fields.lookup name
      else none
  | .list items =>
      if items.length ≤ layout.length || origin.allowsSurplus then
        some fun name => (layout.idxOf? name).bind fun position => items[position]?
      else none
  | _ => none

/-- A field that has to be present. -/
def required {α : Type} (read : Datum → Option α) : Option Datum → Option α
  | none => none
  | some datum => read datum

/-- A field with a value for when it is absent. -/
def defaulted {α : Type} (value : α) (read : Datum → Option α) :
    Option Datum → Option α
  | none => some value
  | some datum => read datum

/-- A field that may be absent or `null`. -/
def optional {α : Type} (read : Datum → Option α) :
    Option Datum → Option (Option α)
  | none | some .null => some none
  | some datum => (read datum).map some

/-! ## Tagged records -/

/-- The tag of a record and the record without it.  The tag is the field of
that name or, in a list, the first value. -/
def tagged? (tag : String) : Datum → Option (Datum × Datum)
  | .record fields =>
      match fields.partition fun field => field.1 = tag with
      | ([(_, value)], rest) => some (value, .record rest)
      | _ => none
  | .list (value :: rest) => some (value, .list rest)
  | _ => none

/-- The alternative, among those listed, that a tag stands for. -/
def tag? {α : Type} (origin : Origin) (alternatives : List α)
    (name : α → String) : Datum → Option α
  | .text given => alternatives.find? fun alternative => name alternative = given
  | .whole (.ofNat position) =>
      if origin.allowsPosition then alternatives[position]? else none
  | _ => none

end Datum

end OnboardStorage
