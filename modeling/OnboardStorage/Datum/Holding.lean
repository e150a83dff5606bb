import OnboardStorage.Datum
import OnboardStorage.DoublePrecision

/-!
# Data that is held back

A record whose kind is given by one of its fields is held back until that field
is known.  Fields that are passed over in the end are held back with the
others, so every part of such a record has to stand for something.
-/

namespace OnboardStorage.Datum

mutual

/-- Whether the data can be held back: all of it is readable, and its numbers
are in the range of double precision. -/
def isHoldable : Datum → Bool
  | .unreadable => false
  | .whole value => DoublePrecision.inRangeTwice value.natAbs 0
  | .decimal _ significand exponent => DoublePrecision.inRangeTwice significand exponent
  | .list items => areHoldable items
  | .record fields => fieldsAreHoldable fields
  | .null | .flag _ | .text _ => true

/-- `isHoldable` on every item. -/
def areHoldable : List Datum → Bool
  | [] => true
  | item :: rest => isHoldable item && areHoldable rest

/-- `isHoldable` on every field. -/
def fieldsAreHoldable : List (String × Datum) → Bool
  | [] => true
  | (_, value) :: rest => isHoldable value && fieldsAreHoldable rest

end

end OnboardStorage.Datum
