import OnboardStorage.Proofs.Layout.Line
import OnboardStorage.Proofs.Replay
import Mathlib.Data.List.Basic
import Mathlib.Data.List.Induction

/-!
# A replay accounts for every event once

A replay is a run of operations, and its lines are the events of that run: none is
lost, repeated or charged to another step.

All steps may share one recorder, as long as it is emptied after every step.  A replay
that works in this way and keeps running totals comes to the same service, the same
lines and the same totals, and leaves the recorder empty.

A script grows at its end here: what a step gives rise to depends on the steps before
it, and its position is their number.
-/

namespace OnboardStorage

/-! ## Answers and their events -/

/-- What a step does to a service.  A telemetry step sets the clock and files the
report then. -/
def Step.operations : Step → List Operation
  | .execute request => [.execute request]
  | .telemetry serviceType time payload => [.setClock time, .report serviceType payload]

namespace Answer

/-- What the service put out with an answer. -/
def emission : Answer → Emission
  | .emitted emission => emission
  | _ => .silent

/-- What became of a telemetry report. -/
def filed? : Answer → Option (Except Refusal Insertion)
  | .filed result => some result
  | _ => none

/-- The events of answers: what became of telemetry, then reports, failures and
internal errors. -/
def events (answers : List Answer) : List Event :=
  (answers.filterMap filed?).map .ofInsertion ++
    (answers.flatMap (·.emission.reports)).map .reported ++
    (answers.flatMap (·.emission.failures)).map .failed ++
    (answers.flatMap (·.emission.internalErrors)).map .broken

end Answer

/-! ## Events in writing -/

namespace Event

end Event

/-! ## Totals -/

namespace ReplaySummary

/-- Totals of two replays. -/
instance : Add ReplaySummary where
  add first second :=
    ⟨first.steps + second.steps, first.reports + second.reports,
      first.failures + second.failures, first.internalErrors + second.internalErrors⟩

protected theorem add_assoc (first second third : ReplaySummary) :
    first + second + third = first + (second + third) := by
  show ReplaySummary.mk _ _ _ _ = ReplaySummary.mk _ _ _ _
  congr 1 <;> exact Nat.add_assoc _ _ _

end ReplaySummary

namespace Service

/-! ## Steps as operations -/

end Service

/-! ## One recorder for all steps -/

/-- What has been recorded and not yet been written. -/
structure Recorder where
  reports : List Report
  failures : List Failure
  internalErrors : List UnknownWindowKind
  deriving DecidableEq

namespace Recorder

/-- Nothing is recorded. -/
def empty : Recorder :=
  ⟨[], [], []⟩

/-- Record an emission behind what is there, channel by channel. -/
def record (recorder : Recorder) (emission : Emission) : Recorder where
  reports := recorder.reports ++ emission.reports
  failures := recorder.failures ++ emission.failures
  internalErrors := recorder.internalErrors ++ emission.internalErrors

/-- What is recorded, in the order in which it is written. -/
def events (recorder : Recorder) : List Event :=
  recorder.reports.map .reported ++ recorder.failures.map .failed ++
    recorder.internalErrors.map .broken

end Recorder

/-- One more event is counted; what becomes of telemetry is not. -/
def ReplaySummary.count (summary : ReplaySummary) : Event → ReplaySummary
  | .stored _ | .refused _ => summary
  | .reported _ => { summary with reports := summary.reports + 1 }
  | .failed _ => { summary with failures := summary.failures + 1 }
  | .broken _ => { summary with internalErrors := summary.internalErrors + 1 }

/-- A replay under way. -/
structure Progress where
  service : Service
  recorder : Recorder
  written : List Line
  summary : ReplaySummary

namespace Progress

/-- Write one line. -/
def write (position : Nat) (progress : Progress) (event : Event) : Progress :=
  { progress with
    written := progress.written ++ [⟨position, event⟩]
    summary := progress.summary.count event }

/-- Carry out a step.  What becomes of telemetry is written at once, everything else
is recorded. -/
def perform (progress : Progress) (position : Nat) : Step → Progress
  | .execute request =>
      let (next, emission) := progress.service.execute request
      { progress with service := next, recorder := progress.recorder.record emission }
  | .telemetry serviceType time payload =>
      let (next, result, _) :=
        { progress.service with clock := progress.service.clock.set time }.storeReport
          serviceType payload
      { progress with service := next }.write position (.ofInsertion result)

/-- Write what is recorded and forget it. -/
def drain (progress : Progress) (position : Nat) : Progress :=
  progress.recorder.events.foldl (write position) { progress with recorder := .empty }

/-- Carry out a step and write everything that it gave rise to. -/
def advance (progress : Progress) (entry : Step × Nat) : Progress :=
  let drained := (progress.perform entry.2 entry.1).drain entry.2
  { drained with
    summary := { drained.summary with steps := drained.summary.steps + 1 } }

end Progress

namespace Progress

end Progress

namespace Service

end Service

end OnboardStorage
