import OnboardStorage.Emission
import OnboardStorage.Layout.Request
import OnboardStorage.PacketStore.Copy

/-!
# Written form of what the service puts out

Reports are tagged with their kind.  Rejections and refusals are written by
name or by wording.
-/

namespace OnboardStorage

open Datum

/-- Written form of the status of a store. -/
def StoreStatus.toDatum (status : StoreStatus) : Datum :=
  .record
    [("packet_store_id", status.storeId.toDatum),
      ("storage_status", .flag status.storageEnabled),
      ("open_retrieval_status", status.openRetrieval.toDatum),
      ("by_time_range_retrieval_status", .flag status.timeRangeActive)]

/-- Written form of the settings of a store. -/
def StoreConfiguration.toDatum (configuration : StoreConfiguration) : Datum :=
  .record
    [("packet_store_id", configuration.storeId.toDatum),
      ("size_bytes", .ofNat configuration.size.toNat),
      ("store_type", configuration.kind.toDatum),
      ("virtual_channel", .ofNat configuration.virtualChannel.toNat)]

/-- Written form of a tag that may be absent. -/
def tagToDatum (tag : Option TimeTag) : Datum :=
  .ofOption (fun tag => .ofNat tag.toNat) tag

/-- Written form of a content summary. -/
def ContentSummary.toDatum (summary : ContentSummary) : Datum :=
  .record
    [("packet_store_id", summary.storeId.toDatum),
      ("oldest_time_tag", tagToDatum summary.oldestTag),
      ("newest_time_tag", tagToDatum summary.newestTag),
      ("open_retrieval_start_tag", .ofNat summary.openRetrievalStart.toNat),
      ("filled_percentage", .ofNat summary.filledPercentage.toNat),
      ("open_retrieval_filled_percentage",
        .ofNat summary.openRetrievalFilledPercentage.toNat)]

/-- Written form of a report. -/
def Report.toDatum : Report → Datum
  | .status stores =>
      .record
        [("report", .text "status"), ("stores", .list (stores.map StoreStatus.toDatum))]
  | .configuration stores =>
      .record
        [("report", .text "configuration"),
          ("stores", .list (stores.map StoreConfiguration.toDatum))]
  | .contentSummary stores =>
      .record
        [("report", .text "content_summary"),
          ("stores", .list (stores.map ContentSummary.toDatum))]

/-- Written form of a failure. -/
def Failure.toDatum (failure : Failure) : Datum :=
  .record
    [("message_type", failure.messageType.toDatum),
      ("store_id", .ofOption StoreId.toDatum failure.store),
      ("error", .text failure.cause.name)]

/-- Written form of an internal error. -/
def UnknownWindowKind.toDatum (unknown : UnknownWindowKind) : Datum :=
  .record [("invalid_time_window_type", .ofNat unknown.code.toNat)]

/-- Written form of what became of a report. -/
def Insertion.toDatum : Insertion → Datum
  | .stored evicted => .record [("stored", .record [("evicted", .ofNat evicted)])]
  | .storageDisabled => .text "storage_disabled"
  | .notRouted => .text "not_routed"

/-- Written form of the counts of a copy. -/
def CopyOutcome.toDatum (outcome : CopyOutcome) : Datum :=
  .record
    [("copied", .ofNat outcome.copied), ("evicted", .ofNat outcome.evicted),
      ("rejected", .ofNat outcome.rejected)]

end OnboardStorage
