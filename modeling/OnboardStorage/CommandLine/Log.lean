import OnboardStorage.LogFilter
import OnboardStorage.Script
import OnboardStorage.Text.Control

/-!
# Log of the tool

The tool logs what the service does and, at a few points, what it does itself.
The log goes beside the output and never changes it.
-/

namespace OnboardStorage.CommandLine

/-- Something the tool logs. -/
inductive LogEntry where
  | service (notice : Notice)
  | replaying (steps : Nat) (script : String)
  | replayed (summary : ReplaySummary)
  | saved (stores : Nat) (path : String)
  deriving DecidableEq

namespace LogEntry

/-- Name of the part of the program that logs the entry. -/
def source : LogEntry → String
  | .service _ => "pus_storage::service"
  | .replaying .. | .replayed _ | .saved .. => "pus_storagectl"

/-- Severity of the entry. -/
def severity : LogEntry → Severity
  | .service notice => notice.severity
  | .replaying .. | .replayed _ | .saved .. => .info

/-- Wording of the entry. -/
def text : LogEntry → String
  | .service notice => notice.text
  | .replaying steps script => s!"Replaying {steps} steps from {script}"
  | .replayed summary =>
      s!"Done: {summary.steps} steps, {summary.reports} reports, " ++
        s!"{summary.failures} failures, {summary.internalErrors} internal errors"
  | .saved stores path => s!"Saved {stores} packet stores to {path}"

/-- The log line of an entry: severity, then wording, with nothing in it that a
terminal obeys. -/
def line (entry : LogEntry) : String :=
  entry.severity.tag ++ " " ++ Text.escapeControls entry.text

/-- Whether the entry is written under a filter. -/
def passes (entry : LogEntry) (filter : LogFilter) : Bool :=
  filter.admits entry.source entry.severity

end LogEntry

end OnboardStorage.CommandLine
