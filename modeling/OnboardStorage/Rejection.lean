/-!
# Rejection of request items

An item of a telecommand is either carried out or rejected for exactly one
cause.  The causes are listed here in the order in which reports count them,
with the name, the wording and the category that ground tooling sees.
-/

namespace OnboardStorage

/-- Coarse grouping of rejections. -/
inductive Category where
  | notFound
  | alreadyExists
  | capacity
  | busy
  | window
  deriving DecidableEq, Repr

/-- Name of the category in written records. -/
def Category.name : Category → String
  | .notFound => "not_found"
  | .alreadyExists => "already_exists"
  | .capacity => "capacity"
  | .busy => "busy"
  | .window => "window"

/-- Why an item of a request is not carried out. -/
inductive Rejection where
  | storeMissing
  | storeExists
  | registryFull
  | sizeUnsupported
  | channelOutOfRange
  | storageEnabled
  | openRetrievalInProgress
  | timeRangeRetrievalInProgress
  | timeRangeRetrievalAlreadyEnabled
  | windowInvalid
  | windowMissesPackets
  | destinationNotEmpty
  | copyFailed
  | storeRouted
  deriving DecidableEq, Repr

namespace Rejection

/-- Every cause, in reporting order. -/
def all : List Rejection :=
  [.storeMissing, .storeExists, .registryFull, .sizeUnsupported,
    .channelOutOfRange, .storageEnabled, .openRetrievalInProgress,
    .timeRangeRetrievalInProgress, .timeRangeRetrievalAlreadyEnabled,
    .windowInvalid, .windowMissesPackets, .destinationNotEmpty, .copyFailed,
    .storeRouted]

/-- Name of the cause in written records. -/
def name : Rejection → String
  | .storeMissing => "non_existing_packet_store"
  | .storeExists => "already_existing_packet_store"
  | .registryFull => "max_number_of_packet_stores_reached"
  | .sizeUnsupported => "unable_to_handle_packet_store_size"
  | .channelOutOfRange => "invalid_virtual_channel"
  | .storageEnabled => "storage_status_enabled"
  | .openRetrievalInProgress => "open_retrieval_in_progress"
  | .timeRangeRetrievalInProgress => "by_time_range_retrieval_in_progress"
  | .timeRangeRetrievalAlreadyEnabled => "by_time_range_retrieval_already_enabled"
  | .windowInvalid => "invalid_time_window"
  | .windowMissesPackets => "no_time_window_overlap"
  | .destinationNotEmpty => "destination_packet_store_not_empty"
  | .copyFailed => "copy_of_packets_failed"
  | .storeRouted => "packet_store_still_routed"

/-- Wording of the cause. -/
def message : Rejection → String
  | .storeMissing => "packet store does not exist"
  | .storeExists => "packet store already exists"
  | .registryFull => "maximum number of packet stores reached"
  | .sizeUnsupported => "packet store size cannot be handled by the platform"
  | .channelOutOfRange => "virtual channel out of range"
  | .storageEnabled => "storage function is enabled on the packet store"
  | .openRetrievalInProgress => "open retrieval is in progress on the packet store"
  | .timeRangeRetrievalInProgress =>
      "by-time-range retrieval is in progress on the packet store"
  | .timeRangeRetrievalAlreadyEnabled => "by-time-range retrieval already enabled"
  | .windowInvalid => "invalid time window"
  | .windowMissesPackets => "time window does not overlap the stored packets"
  | .destinationNotEmpty => "destination packet store is not empty"
  | .copyFailed => "copy of packets failed"
  | .storeRouted => "packet store is the routing target of a service"

/-- Category the cause is grouped under. -/
def category : Rejection → Category
  | .storeMissing => .notFound
  | .storeExists => .alreadyExists
  | .registryFull | .sizeUnsupported | .channelOutOfRange => .capacity
  | .storageEnabled | .openRetrievalInProgress | .timeRangeRetrievalInProgress
  | .timeRangeRetrievalAlreadyEnabled | .storeRouted => .busy
  | .windowInvalid | .windowMissesPackets | .destinationNotEmpty
  | .copyFailed => .window

end Rejection

end OnboardStorage
