import OnboardStorage.Service.Execution

/-!
# Scripts

A script is a list of steps for one service.  Each step gives rise to events,
and each event to one line of output that carries the position of its step.
Of one step the answer to telemetry comes first, then reports, failures and
internal errors.  What the service logs meanwhile is kept beside the lines.
-/

namespace OnboardStorage

/-- One step of a script. -/
inductive Step where
  | execute (request : Request)
  /-- Set the clock to `time` and file a report of `serviceType`. -/
  | telemetry (serviceType : UInt8) (time : TimeTag) (payload : List UInt8)
  deriving DecidableEq

/-- Something that a step gives rise to. -/
inductive Event where
  | stored (outcome : Insertion)
  | refused (cause : Refusal)
  | reported (report : Report)
  | failed (failure : Failure)
  | broken (unknown : UnknownWindowKind)
  deriving DecidableEq

/-- An event with the position of its step. -/
structure Line where
  position : Nat
  event : Event
  deriving DecidableEq

/-- The events of an emission, channel by channel. -/
def Emission.events (emission : Emission) : List Event :=
  emission.reports.map .reported ++ emission.failures.map .failed ++
    emission.internalErrors.map .broken

/-- The event of a telemetry report. -/
def Event.ofInsertion : Except Refusal Insertion → Event
  | .ok outcome => .stored outcome
  | .error cause => .refused cause

/-- The lines that events of a step give. -/
def Event.lines (position : Nat) (events : List Event) : List Line :=
  events.map fun event => ⟨position, event⟩

namespace Service

/-- Carry out a step; also answers its events and what is logged. -/
def take (service : Service) : Step → Service × List Event × List Notice
  | .execute request =>
      let (next, emission) := service.execute request
      (next, emission.events, emission.notices)
  | .telemetry serviceType time payload =>
      let (next, result, notices) :=
        { service with clock := service.clock.set time }.storeReport serviceType payload
      (next, [.ofInsertion result], notices)

/-- Carry out steps in turn; the first has the given position.  Also answers
the lines of all steps and what is logged. -/
def replay (service : Service) (position : Nat) :
    List Step → Service × List Line × List Notice
  | [] => (service, [], [])
  | step :: rest =>
      let (next, events, notices) := service.take step
      let (final, lines, later) := next.replay (position + 1) rest
      (final, Event.lines position events ++ lines, notices ++ later)

@[simp]
theorem replay_nil (service : Service) (position : Nat) :
    service.replay position [] = (service, [], []) :=
  rfl

theorem replay_cons (service : Service) (position : Nat) (step : Step)
    (rest : List Step) :
    service.replay position (step :: rest) =
      (((service.take step).1.replay (position + 1) rest).1,
        Event.lines position (service.take step).2.1 ++
          ((service.take step).1.replay (position + 1) rest).2.1,
        (service.take step).2.2 ++
          ((service.take step).1.replay (position + 1) rest).2.2) :=
  rfl

/-- Steps replayed in two portions are replayed in turn. -/
theorem replay_append (service : Service) (position : Nat)
    (first second : List Step) :
    service.replay position (first ++ second) =
      (((service.replay position first).1.replay (position + first.length) second).1,
        (service.replay position first).2.1 ++
          ((service.replay position first).1.replay
            (position + first.length) second).2.1,
        (service.replay position first).2.2 ++
          ((service.replay position first).1.replay
            (position + first.length) second).2.2) := by
  induction first generalizing service position with
  | nil => simp
  | cons step rest ih =>
      have hlength : position + (rest.length + 1) = position + 1 + rest.length := by
        omega
      simp only [List.cons_append, replay_cons, ih, List.append_assoc,
        List.length_cons, hlength]

end Service

/-- Totals of a replay. -/
structure ReplaySummary where
  steps : Nat
  reports : Nat
  failures : Nat
  internalErrors : Nat
  deriving DecidableEq, Repr

/-- Totals of the lines that a number of steps gave. -/
def ReplaySummary.ofLines (steps : Nat) (lines : List Line) : ReplaySummary where
  steps := steps
  reports := lines.countP fun line => line.event matches .reported _
  failures := lines.countP fun line => line.event matches .failed _
  internalErrors := lines.countP fun line => line.event matches .broken _

end OnboardStorage
