import OnboardStorage.Notice
import OnboardStorage.Report

/-!
# What a request gives rise to

Carrying out a request yields reports, failures, internal errors and log
notices.  The four channels are kept apart and each keeps its own order;
emissions of successive steps are joined channel by channel.
-/

namespace OnboardStorage

/-- Output of the service, by channel. -/
@[ext]
structure Emission where
  reports : List Report
  failures : List Failure
  internalErrors : List UnknownWindowKind
  notices : List Notice
  deriving DecidableEq

namespace Emission

/-- No output. -/
def silent : Emission :=
  ⟨[], [], [], []⟩

/-- Output of one step followed by that of another. -/
def join (first second : Emission) : Emission :=
  ⟨first.reports ++ second.reports, first.failures ++ second.failures,
    first.internalErrors ++ second.internalErrors, first.notices ++ second.notices⟩

instance : Append Emission :=
  ⟨join⟩

/-- Log notices alone. -/
def ofNotices (notices : List Notice) : Emission :=
  ⟨[], [], [], notices⟩

/-- One report. -/
def ofReport (report : Report) : Emission :=
  ⟨[report], [], [], []⟩

/-- The rejection of one item that names `store`, reported and logged. -/
def rejection (request : MessageType) (store : StoreId) (cause : Rejection) :
    Emission :=
  ⟨[], [⟨request, some store, cause⟩], [], [.rejected request store cause]⟩

@[simp]
theorem reports_append (first second : Emission) :
    (first ++ second).reports = first.reports ++ second.reports :=
  rfl

@[simp]
theorem failures_append (first second : Emission) :
    (first ++ second).failures = first.failures ++ second.failures :=
  rfl

@[simp]
theorem internalErrors_append (first second : Emission) :
    (first ++ second).internalErrors =
      first.internalErrors ++ second.internalErrors :=
  rfl

@[simp]
theorem notices_append (first second : Emission) :
    (first ++ second).notices = first.notices ++ second.notices :=
  rfl

@[simp]
theorem silent_append (emission : Emission) : silent ++ emission = emission :=
  rfl

@[simp]
theorem append_silent (emission : Emission) : emission ++ silent = emission := by
  ext1 <;> simp [silent]

theorem append_assoc (first second third : Emission) :
    first ++ second ++ third = first ++ (second ++ third) := by
  ext1 <;> simp [List.append_assoc]

end Emission

end OnboardStorage
