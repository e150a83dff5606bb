import OnboardStorage.PacketStore
import OnboardStorage.StoreId

/-!
# Telecommands

A request names the stores it is about.  Where a list of identifiers is given,
the empty list stands for every store.  Each request is one telecommand of the
service; reports are telemetry messages of the same numbering.
-/

namespace OnboardStorage

/-- Messages of the service, telecommands and telemetry alike. -/
inductive MessageType where
  | enableStorage
  | disableStorage
  | startTimeRangeRetrieval
  | deleteContent
  | reportContentSummary
  | contentSummaryReport
  | changeOpenRetrievalStart
  | resumeOpenRetrieval
  | suspendOpenRetrieval
  | abortTimeRangeRetrieval
  | reportStatus
  | statusReport
  | createStores
  | deleteStores
  | reportConfiguration
  | configurationReport
  | copyPackets
  | resizeStores
  | changeTypeToCircular
  | changeTypeToBounded
  | changeVirtualChannel
  deriving DecidableEq, Repr

namespace MessageType

/-- Every message, by ascending subtype. -/
def all : List MessageType :=
  [.enableStorage, .disableStorage, .startTimeRangeRetrieval, .deleteContent,
    .reportContentSummary, .contentSummaryReport, .changeOpenRetrievalStart,
    .resumeOpenRetrieval, .suspendOpenRetrieval, .abortTimeRangeRetrieval,
    .reportStatus, .statusReport, .createStores, .deleteStores,
    .reportConfiguration, .configurationReport, .copyPackets, .resizeStores,
    .changeTypeToCircular, .changeTypeToBounded, .changeVirtualChannel]

/-- Message subtype number. -/
def subtype : MessageType → Nat
  | .enableStorage => 1
  | .disableStorage => 2
  | .startTimeRangeRetrieval => 9
  | .deleteContent => 11
  | .reportContentSummary => 12
  | .contentSummaryReport => 13
  | .changeOpenRetrievalStart => 14
  | .resumeOpenRetrieval => 15
  | .suspendOpenRetrieval => 16
  | .abortTimeRangeRetrieval => 17
  | .reportStatus => 18
  | .statusReport => 19
  | .createStores => 20
  | .deleteStores => 21
  | .reportConfiguration => 22
  | .configurationReport => 23
  | .copyPackets => 24
  | .resizeStores => 25
  | .changeTypeToCircular => 26
  | .changeTypeToBounded => 27
  | .changeVirtualChannel => 28

/-- Name of the message in written records. -/
def name : MessageType → String
  | .enableStorage => "enable_storage_in_packet_stores"
  | .disableStorage => "disable_storage_in_packet_stores"
  | .startTimeRangeRetrieval => "start_by_time_range_retrieval"
  | .deleteContent => "delete_packet_store_content"
  | .reportContentSummary => "report_content_summary_of_packet_stores"
  | .contentSummaryReport => "packet_store_content_summary_report"
  | .changeOpenRetrievalStart => "change_open_retrieval_starting_time"
  | .resumeOpenRetrieval => "resume_open_retrieval_of_packet_stores"
  | .suspendOpenRetrieval => "suspend_open_retrieval_of_packet_stores"
  | .abortTimeRangeRetrieval => "abort_by_time_range_retrieval"
  | .reportStatus => "report_status_of_packet_stores"
  | .statusReport => "packet_stores_status_report"
  | .createStores => "create_packet_stores"
  | .deleteStores => "delete_packet_stores"
  | .reportConfiguration => "report_configuration_of_packet_stores"
  | .configurationReport => "packet_store_configuration_report"
  | .copyPackets => "copy_packets_in_time_window"
  | .resizeStores => "resize_packet_stores"
  | .changeTypeToCircular => "change_type_to_circular"
  | .changeTypeToBounded => "change_type_to_bounded"
  | .changeVirtualChannel => "change_virtual_channel"

end MessageType

/-- A store to be created. -/
structure StoreDefinition where
  id : StoreId
  size : UInt32
  kind : StoreKind
  virtualChannel : UInt8
  deriving DecidableEq

/-- A store and its new capacity. -/
structure StoreResize where
  id : StoreId
  size : UInt32
  deriving DecidableEq

/-- A by-time-range retrieval to be started. -/
structure RetrievalStart where
  store : StoreId
  range : TimeRange
  /-- Heeded only by platforms that prioritise retrievals. -/
  priority : Option UInt16
  deriving DecidableEq

/-- Packets of a time window to be copied from one store to another. -/
structure CopyOrder where
  windowCode : UInt8
  start : TimeTag
  stop : TimeTag
  source : StoreId
  destination : StoreId
  deriving DecidableEq

/-- A telecommand. -/
inductive Request where
  | enableStorage (stores : List StoreId)
  | disableStorage (stores : List StoreId)
  | startTimeRangeRetrieval (retrievals : List RetrievalStart)
  | deleteContent (limit : TimeTag) (stores : List StoreId)
  | reportContentSummary (stores : List StoreId)
  | changeOpenRetrievalStart (start : TimeTag) (stores : List StoreId)
  | resumeOpenRetrieval (stores : List StoreId) (priority : Option UInt16)
  | suspendOpenRetrieval (stores : List StoreId)
  | abortTimeRangeRetrieval (stores : List StoreId)
  | reportStatus
  | reportConfiguration
  | createStores (definitions : List StoreDefinition)
  | deleteStores (stores : List StoreId)
  | copyPackets (order : CopyOrder)
  | resizeStores (resizes : List StoreResize)
  | changeTypeToCircular (store : StoreId)
  | changeTypeToBounded (store : StoreId)
  | changeVirtualChannel (store : StoreId) (channel : UInt8)
  deriving DecidableEq

/-- The message that carries a request. -/
def Request.messageType : Request → MessageType
  | .enableStorage _ => .enableStorage
  | .disableStorage _ => .disableStorage
  | .startTimeRangeRetrieval _ => .startTimeRangeRetrieval
  | .deleteContent _ _ => .deleteContent
  | .reportContentSummary _ => .reportContentSummary
  | .changeOpenRetrievalStart _ _ => .changeOpenRetrievalStart
  | .resumeOpenRetrieval _ _ => .resumeOpenRetrieval
  | .suspendOpenRetrieval _ => .suspendOpenRetrieval
  | .abortTimeRangeRetrieval _ => .abortTimeRangeRetrieval
  | .reportStatus => .reportStatus
  | .reportConfiguration => .reportConfiguration
  | .createStores _ => .createStores
  | .deleteStores _ => .deleteStores
  | .copyPackets _ => .copyPackets
  | .resizeStores _ => .resizeStores
  | .changeTypeToCircular _ => .changeTypeToCircular
  | .changeTypeToBounded _ => .changeTypeToBounded
  | .changeVirtualChannel _ _ => .changeVirtualChannel

end OnboardStorage
