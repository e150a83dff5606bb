import OnboardStorage.Layout.Report
import OnboardStorage.Script

/-!
# Written form of scripts

A script is a list of steps, each a record tagged with its kind.  What a step
gives rise to is written as one record per event, with the position of the
step; its fields are in ascending order at every level.
-/

namespace OnboardStorage

open Datum

namespace Step

/-- Kinds of step. -/
inductive Kind where
  | execute
  | telemetry
  deriving DecidableEq, Repr

/-- Name of the kind in written records. -/
def Kind.name : Kind → String
  | .execute => "execute"
  | .telemetry => "telemetry"

/-- Read the fields of a step of a given kind. -/
def ofFields? (kind : Kind) (datum : Datum) : Option Step :=
  match kind with
  | .execute => do
      let field ← datum.fields? .held ["request"]
      let request ← required (Request.ofDatum? .held) (field "request")
      return .execute request
  | .telemetry => do
      let field ← datum.fields? .held ["service_type", "time", "payload"]
      let serviceType ← required word8? (field "service_type")
      let time ← required word32? (field "time")
      let payload ← defaulted [] (listOf? word8?) (field "payload")
      return .telemetry serviceType time payload

/-- Read a step. -/
def ofDatum? (datum : Datum) : Option Step := do
  let (tag, rest) ← datum.tagged? "step"
  let kind ← tag.tag? .plain [.execute, .telemetry] Kind.name
  if rest.isHoldable then ofFields? kind rest else none

end Step

/-- Written form of an event: its name and content. -/
def Event.toField : Event → String × Datum
  | .stored outcome => ("telemetry", outcome.toDatum)
  | .refused cause => ("storage_error", .text cause.message)
  | .reported report => ("emit", report.toDatum)
  | .failed failure => ("failure", failure.toDatum)
  | .broken unknown => ("internal_error", unknown.toDatum)

/-- Written form of an output line. -/
def Line.toDatum (line : Line) : Datum :=
  (Datum.record [("step", .ofNat line.position), line.event.toField]).sorted

end OnboardStorage
