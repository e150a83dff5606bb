import OnboardStorage.Notice

/-!
# Log filters

Log lines are written as far as a filter admits them.  A filter is a list of
directives, each of which tells how much is written of the lines it is about.
Of several directives for a line the most specific one decides; a line that
none is about is not written.
-/

namespace OnboardStorage

/-- How much is written to a log. -/
inductive Verbosity where
  | off
  | error
  | warning
  | info
  | debug
  | trace
  deriving DecidableEq, Repr

namespace Verbosity

/-- Every verbosity, quietest first. -/
def all : List Verbosity :=
  [.off, .error, .warning, .info, .debug, .trace]

/-- Name of the verbosity in a filter. -/
def name : Verbosity → String
  | .off => "off"
  | .error => "error"
  | .warning => "warn"
  | .info => "info"
  | .debug => "debug"
  | .trace => "trace"

/-- Position of the verbosity, quietest first. -/
def rank : Verbosity → Nat
  | .off => 0
  | .error => 1
  | .warning => 2
  | .info => 3
  | .debug => 4
  | .trace => 5

/-- The least verbosity at which notices of a severity are written. -/
def ofSeverity : Severity → Verbosity
  | .debug => .debug
  | .info => .info
  | .warning => .warning
  | .error => .error

/-- Whether notices of a severity are written. -/
def admits (verbosity : Verbosity) (severity : Severity) : Bool :=
  (ofSeverity severity).rank ≤ verbosity.rank

end Verbosity

/-- A field that a log line must have, perhaps with a value that matches a
pattern. -/
structure LogField where
  name : String
  value : Option String
  deriving DecidableEq, Repr

/-- How much is written of some log lines. -/
structure LogDirective where
  /-- What the names of their sources begin with. -/
  source : String
  /-- The span of work that they are logged in. -/
  span : Option String
  field : Option LogField
  verbosity : Verbosity
  deriving DecidableEq, Repr

namespace LogDirective

/-- Whether the directive is about the lines of a source.  Every line has one
field, the message, and is logged outside any span; values are only known of
spans. -/
def applies (directive : LogDirective) (source : String) : Bool :=
  source.startsWith directive.source && directive.span.isNone &&
    directive.field.all fun field => field.name = "message" && field.value.isNone

/-- Whether the directive is at least as specific as another: it names a longer
beginning of sources, or one as long and no fewer fields. -/
def overrides (directive other : LogDirective) : Bool :=
  if directive.source.utf8ByteSize = other.source.utf8ByteSize then
    directive.field.isSome || other.field.isNone
  else other.source.utf8ByteSize < directive.source.utf8ByteSize

end LogDirective

/-- Which log lines are written. -/
structure LogFilter where
  directives : List LogDirective
  deriving DecidableEq, Repr

namespace LogFilter

/-- The filter of one verbosity for all lines. -/
def all (verbosity : Verbosity) : LogFilter :=
  ⟨[⟨"", none, none, verbosity⟩]⟩

/-- The directive that decides about the lines of a source.  Of two that are as
specific the later one does. -/
def directive? (filter : LogFilter) (source : String) : Option LogDirective :=
  (filter.directives.filter fun directive => directive.applies source).foldl
    (fun best directive =>
      match best with
      | some other => if directive.overrides other then some directive else some other
      | none => some directive)
    none

/-- Whether a line of a severity from a source is written. -/
def admits (filter : LogFilter) (source : String) (severity : Severity) : Bool :=
  match filter.directive? source with
  | some directive => directive.verbosity.admits severity
  | none => false

end LogFilter

end OnboardStorage
