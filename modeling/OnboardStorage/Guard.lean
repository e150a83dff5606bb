import OnboardStorage.Config
import OnboardStorage.PacketStore
import OnboardStorage.Rejection

/-!
# Changes that a retrieval forbids

While packets of a store are being retrieved its layout and content must not
change under the retrieval.  This module says, for each kind of change, which
running job forbids it; when two jobs do, the one named first here is the one
reported.

Starting one kind of retrieval beside the other is forbidden only on platforms
without concurrent retrieval.
-/

namespace OnboardStorage

/-- Kinds of change to a store that a running job may forbid. -/
inductive Change where
  | delete
  | resize
  | changeKind
  | changeChannel
  | deleteContent
  | startTimeRange
  | moveOpenStart
  | resumeOpen
  deriving DecidableEq, Repr

namespace Change

/-- Every kind of change. -/
def all : List Change :=
  [.delete, .resize, .changeKind, .changeChannel, .deleteContent,
    .startTimeRange, .moveOpenStart, .resumeOpen]

/-- Name of the change in written records. -/
def name : Change → String
  | .delete => "delete"
  | .resize => "resize"
  | .changeKind => "change_type"
  | .changeChannel => "change_virtual_channel"
  | .deleteContent => "delete_content"
  | .startTimeRange => "start_by_time_range_retrieval"
  | .moveOpenStart => "change_open_retrieval_start_tag"
  | .resumeOpen => "resume_open_retrieval"

end Change

namespace PacketStore

/-- The retrieval that is running on the store, if any, as a reason to leave
the store alone. -/
def runningRetrieval? (store : PacketStore) : Option Rejection :=
  if store.timeRangeActive then some .timeRangeRetrievalInProgress
  else if store.openRetrieval = .inProgress then some .openRetrievalInProgress
  else none

/-- The job that forbids a change of the store, if any. -/
def blocker? (store : PacketStore) (capabilities : Capabilities) :
    Change → Option Rejection
  | .delete =>
      if store.storageEnabled then some .storageEnabled
      else store.runningRetrieval?
  | .resize | .changeKind | .changeChannel | .deleteContent =>
      store.runningRetrieval?
  | .startTimeRange =>
      if store.openRetrieval = .inProgress ∧ !capabilities.concurrentRetrieval then
        some .openRetrievalInProgress
      else if store.timeRangeActive then some .timeRangeRetrievalAlreadyEnabled
      else none
  | .moveOpenStart =>
      if store.openRetrieval = .inProgress then some .openRetrievalInProgress
      else none
  | .resumeOpen =>
      if store.timeRangeActive ∧ !capabilities.concurrentRetrieval then
        some .timeRangeRetrievalInProgress
      else none

/-- Whether no running job forbids a change of the store. -/
def permits (store : PacketStore) (capabilities : Capabilities)
    (change : Change) : Bool :=
  (store.blocker? capabilities change).isNone

/-- A store is left alone exactly while a retrieval is running on it. -/
theorem runningRetrieval?_eq_none_iff {store : PacketStore} :
    store.runningRetrieval? = none ↔
      store.timeRangeRetrieval = none ∧ store.openRetrieval = .suspended := by
  unfold runningRetrieval? timeRangeActive
  cases hrange : store.timeRangeRetrieval <;>
    cases hopen : store.openRetrieval <;> simp

end PacketStore

end OnboardStorage
