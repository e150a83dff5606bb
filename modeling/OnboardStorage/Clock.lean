/-!
# Time tags and the clock

Packets carry 32-bit time tags.  The clock that stamps them is set or advanced
from outside; nothing makes it run forwards.  An advance stops at the last
representable tag.
-/

namespace OnboardStorage

/-- Seconds on the on-board time scale. -/
abbrev TimeTag :=
  UInt32

/-- The last representable time tag. -/
def TimeTag.last : TimeTag :=
  4294967295

/-- The sum of a tag and a duration, or the last tag when there is none. -/
def TimeTag.later (tag duration : TimeTag) : TimeTag :=
  if tag.toNat + duration.toNat ≤ TimeTag.last.toNat then tag + duration
  else TimeTag.last

/-- A clock that shows what it was last set to. -/
structure Clock where
  reading : TimeTag
  deriving DecidableEq, Repr

namespace Clock

/-- Make the clock show `tag`. -/
def set (_clock : Clock) (tag : TimeTag) : Clock :=
  ⟨tag⟩

/-- Move the clock forwards, up to the last tag. -/
def advance (clock : Clock) (duration : TimeTag) : Clock :=
  ⟨clock.reading.later duration⟩

end Clock

end OnboardStorage
