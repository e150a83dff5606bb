/-!
# Fixed ceilings of the platform

These numbers bound every configuration: a platform may be configured below a
ceiling, never above it.  The module only names them; the checks that use them
live with the types they bound.
-/

namespace OnboardStorage.Limits

/-- Service type number of on-board storage and retrieval. -/
def serviceType : Nat :=
  15

/-- Longest store identifier, in bytes of UTF-8. -/
def idBytes : Nat :=
  16

/-- Most packet stores a registry can hold. -/
def stores : Nat :=
  16

/-- Most service types a routing table can hold. -/
def routes : Nat :=
  32

/-- Longest telemetry message a platform may accept, in bytes. -/
def messageBytes : Nat :=
  1024

/-- Release of the command line tool. -/
def version : String :=
  "0.3.0"

end OnboardStorage.Limits
