import OnboardStorage.Layout.Store
import OnboardStorage.Request
import OnboardStorage.Window

/-!
# Written form of telecommands

A request is a record tagged with the name of its command; the other fields
depend on it.  Lists of identifiers may be left out, which leaves them empty.
-/

namespace OnboardStorage

open Datum

/-! ## Message types and window kinds -/

/-- Written form of a message type. -/
def MessageType.toDatum (message : MessageType) : Datum :=
  .text message.name

/-- Read a message type. -/
def MessageType.ofDatum? (origin : Origin) (datum : Datum) : Option MessageType :=
  datum.oneOf? origin all name

/-- Written form of a kind of window. -/
def WindowKind.toDatum (kind : WindowKind) : Datum :=
  .text kind.name

/-- Read a kind of window. -/
def WindowKind.ofDatum? (origin : Origin) (datum : Datum) : Option WindowKind :=
  datum.oneOf? origin all name

/-! ## Items -/

namespace StoreDefinition

/-- Written form of a store to be created. -/
def toDatum (definition : StoreDefinition) : Datum :=
  .record
    [("id", definition.id.toDatum),
      ("size_bytes", .ofNat definition.size.toNat),
      ("store_type", definition.kind.toDatum),
      ("virtual_channel", .ofNat definition.virtualChannel.toNat)]

/-- Read a store to be created. -/
def ofDatum? (origin : Origin) (datum : Datum) : Option StoreDefinition := do
  let field ←
    datum.fields? origin ["id", "size_bytes", "store_type", "virtual_channel"]
  let id ← required StoreId.ofDatum? (field "id")
  let size ← required word32? (field "size_bytes")
  let kind ← required (StoreKind.ofDatum? origin) (field "store_type")
  let virtualChannel ← required word8? (field "virtual_channel")
  return { id, size, kind, virtualChannel }

end StoreDefinition

namespace StoreResize

/-- Written form of a change of capacity. -/
def toDatum (resize : StoreResize) : Datum :=
  .record
    [("id", resize.id.toDatum), ("size_bytes", .ofNat resize.size.toNat)]

/-- Read a change of capacity. -/
def ofDatum? (origin : Origin) (datum : Datum) : Option StoreResize := do
  let field ← datum.fields? origin ["id", "size_bytes"]
  let id ← required StoreId.ofDatum? (field "id")
  let size ← required word32? (field "size_bytes")
  return { id, size }

end StoreResize

namespace RetrievalStart

/-- Written form of a retrieval to be started. -/
def toDatum (retrieval : RetrievalStart) : Datum :=
  .record
    [("store", retrieval.store.toDatum),
      ("start", .ofNat retrieval.range.start.toNat),
      ("end", .ofNat retrieval.range.stop.toNat),
      ("priority", .ofOption (fun level => .ofNat level.toNat) retrieval.priority)]

/-- Read a retrieval to be started. -/
def ofDatum? (origin : Origin) (datum : Datum) : Option RetrievalStart := do
  let field ← datum.fields? origin ["store", "start", "end", "priority"]
  let store ← required StoreId.ofDatum? (field "store")
  let start ← required word32? (field "start")
  let stop ← required word32? (field "end")
  let priority ← optional word16? (field "priority")
  return { store, range := ⟨start, stop⟩, priority }

end RetrievalStart

/-! ## Requests -/

/-- Commands by which requests are tagged. -/
inductive Command where
  | enableStorage
  | disableStorage
  | startTimeRangeRetrieval
  | deleteContent
  | reportContentSummary
  | changeOpenRetrievalStart
  | resumeOpenRetrieval
  | suspendOpenRetrieval
  | abortTimeRangeRetrieval
  | reportStatus
  | reportConfiguration
  | createStores
  | deleteStores
  | copyPackets
  | resizeStores
  | changeTypeToCircular
  | changeTypeToBounded
  | changeVirtualChannel
  deriving DecidableEq, Repr

namespace Command

/-- Every command, in the order of their positions. -/
def all : List Command :=
  [.enableStorage, .disableStorage, .startTimeRangeRetrieval, .deleteContent,
    .reportContentSummary, .changeOpenRetrievalStart, .resumeOpenRetrieval,
    .suspendOpenRetrieval, .abortTimeRangeRetrieval, .reportStatus,
    .reportConfiguration, .createStores, .deleteStores, .copyPackets,
    .resizeStores, .changeTypeToCircular, .changeTypeToBounded,
    .changeVirtualChannel]

/-- Name of the command. -/
def name : Command → String
  | .enableStorage => "enable_storage"
  | .disableStorage => "disable_storage"
  | .startTimeRangeRetrieval => "start_by_time_range_retrieval"
  | .deleteContent => "delete_packet_store_content"
  | .reportContentSummary => "report_content_summary"
  | .changeOpenRetrievalStart => "change_open_retrieval_start_tag"
  | .resumeOpenRetrieval => "resume_open_retrieval"
  | .suspendOpenRetrieval => "suspend_open_retrieval"
  | .abortTimeRangeRetrieval => "abort_by_time_range_retrieval"
  | .reportStatus => "report_status"
  | .reportConfiguration => "report_configuration"
  | .createStores => "create_packet_stores"
  | .deleteStores => "delete_packet_stores"
  | .copyPackets => "copy_packets_in_time_window"
  | .resizeStores => "resize_packet_stores"
  | .changeTypeToCircular => "change_type_to_circular"
  | .changeTypeToBounded => "change_type_to_bounded"
  | .changeVirtualChannel => "change_virtual_channel"

end Command

namespace Request

/-- Written form of a list of identifiers. -/
def storesToDatum (stores : List StoreId) : Datum :=
  .list (stores.map StoreId.toDatum)

/-- Read a list of identifiers. -/
def storesOfDatum? : Datum → Option (List StoreId) :=
  listOf? StoreId.ofDatum?

/-- The command that tags a request. -/
def command : Request → Command
  | .enableStorage _ => .enableStorage
  | .disableStorage _ => .disableStorage
  | .startTimeRangeRetrieval _ => .startTimeRangeRetrieval
  | .deleteContent _ _ => .deleteContent
  | .reportContentSummary _ => .reportContentSummary
  | .changeOpenRetrievalStart _ _ => .changeOpenRetrievalStart
  | .resumeOpenRetrieval _ _ => .resumeOpenRetrieval
  | .suspendOpenRetrieval _ => .suspendOpenRetrieval
  | .abortTimeRangeRetrieval _ => .abortTimeRangeRetrieval
  | .reportStatus => .reportStatus
  | .reportConfiguration => .reportConfiguration
  | .createStores _ => .createStores
  | .deleteStores _ => .deleteStores
  | .copyPackets _ => .copyPackets
  | .resizeStores _ => .resizeStores
  | .changeTypeToCircular _ => .changeTypeToCircular
  | .changeTypeToBounded _ => .changeTypeToBounded
  | .changeVirtualChannel _ _ => .changeVirtualChannel

/-- Written fields of a request, without its tag. -/
def toFields : Request → List (String × Datum)
  | .enableStorage stores | .disableStorage stores
  | .reportContentSummary stores | .suspendOpenRetrieval stores
  | .abortTimeRangeRetrieval stores | .deleteStores stores =>
      [("stores", storesToDatum stores)]
  | .startTimeRangeRetrieval retrievals =>
      [("retrievals", .list (retrievals.map RetrievalStart.toDatum))]
  | .deleteContent limit stores =>
      [("time_limit", .ofNat limit.toNat), ("stores", storesToDatum stores)]
  | .changeOpenRetrievalStart start stores =>
      [("start_tag", .ofNat start.toNat), ("stores", storesToDatum stores)]
  | .resumeOpenRetrieval stores priority =>
      [("stores", storesToDatum stores),
        ("priority", .ofOption (fun level => .ofNat level.toNat) priority)]
  | .reportStatus | .reportConfiguration => []
  | .createStores definitions =>
      [("stores", .list (definitions.map StoreDefinition.toDatum))]
  | .copyPackets order =>
      [("time_window_type", .ofNat order.windowCode.toNat),
        ("time_tag1", .ofNat order.start.toNat),
        ("time_tag2", .ofNat order.stop.toNat),
        ("from", order.source.toDatum),
        ("to", order.destination.toDatum)]
  | .resizeStores resizes =>
      [("stores", .list (resizes.map StoreResize.toDatum))]
  | .changeTypeToCircular store | .changeTypeToBounded store =>
      [("store", store.toDatum)]
  | .changeVirtualChannel store channel =>
      [("store", store.toDatum), ("virtual_channel", .ofNat channel.toNat)]

/-- Written form of a request. -/
def toDatum (request : Request) : Datum :=
  .record (("command", .text request.command.name) :: request.toFields)

/-- Read a request that is about a list of stores. -/
def aboutStores? (make : List StoreId → Request) (datum : Datum) :
    Option Request := do
  let field ← datum.fields? .held ["stores"]
  let stores ← defaulted [] storesOfDatum? (field "stores")
  return make stores

/-- Read a request that is about one store. -/
def aboutStore? (make : StoreId → Request) (datum : Datum) : Option Request := do
  let field ← datum.fields? .held ["store"]
  let store ← required StoreId.ofDatum? (field "store")
  return make store

/-- Read the fields of a request with a given command. -/
def ofFields? (command : Command) (datum : Datum) : Option Request :=
  match command with
  | .enableStorage => aboutStores? .enableStorage datum
  | .disableStorage => aboutStores? .disableStorage datum
  | .reportContentSummary => aboutStores? .reportContentSummary datum
  | .suspendOpenRetrieval => aboutStores? .suspendOpenRetrieval datum
  | .abortTimeRangeRetrieval => aboutStores? .abortTimeRangeRetrieval datum
  | .deleteStores => aboutStores? .deleteStores datum
  | .changeTypeToCircular => aboutStore? .changeTypeToCircular datum
  | .changeTypeToBounded => aboutStore? .changeTypeToBounded datum
  | .startTimeRangeRetrieval => do
      let field ← datum.fields? .held ["retrievals"]
      let retrievals ←
        required (listOf? (RetrievalStart.ofDatum? .held)) (field "retrievals")
      return .startTimeRangeRetrieval retrievals
  | .deleteContent => do
      let field ← datum.fields? .held ["time_limit", "stores"]
      let limit ← required word32? (field "time_limit")
      let stores ← defaulted [] storesOfDatum? (field "stores")
      return .deleteContent limit stores
  | .changeOpenRetrievalStart => do
      let field ← datum.fields? .held ["start_tag", "stores"]
      let start ← required word32? (field "start_tag")
      let stores ← defaulted [] storesOfDatum? (field "stores")
      return .changeOpenRetrievalStart start stores
  | .resumeOpenRetrieval => do
      let field ← datum.fields? .held ["stores", "priority"]
      let stores ← defaulted [] storesOfDatum? (field "stores")
      let priority ← optional word16? (field "priority")
      return .resumeOpenRetrieval stores priority
  | .reportStatus => (datum.fields? .held []).map fun _ => .reportStatus
  | .reportConfiguration =>
      (datum.fields? .held []).map fun _ => .reportConfiguration
  | .createStores => do
      let field ← datum.fields? .held ["stores"]
      let definitions ←
        required (listOf? (StoreDefinition.ofDatum? .held)) (field "stores")
      return .createStores definitions
  | .copyPackets => do
      let field ←
        datum.fields? .held
          ["time_window_type", "time_tag1", "time_tag2", "from", "to"]
      let windowCode ← required word8? (field "time_window_type")
      let start ← defaulted 0 word32? (field "time_tag1")
      let stop ← defaulted 0 word32? (field "time_tag2")
      let source ← required StoreId.ofDatum? (field "from")
      let destination ← required StoreId.ofDatum? (field "to")
      return .copyPackets { windowCode, start, stop, source, destination }
  | .resizeStores => do
      let field ← datum.fields? .held ["stores"]
      let resizes ←
        required (listOf? (StoreResize.ofDatum? .held)) (field "stores")
      return .resizeStores resizes
  | .changeVirtualChannel => do
      let field ← datum.fields? .held ["store", "virtual_channel"]
      let store ← required StoreId.ofDatum? (field "store")
      let channel ← required word8? (field "virtual_channel")
      return .changeVirtualChannel store channel

/-- Read a request. -/
def ofDatum? (origin : Origin) (datum : Datum) : Option Request := do
  let (tag, rest) ← datum.tagged? "command"
  let command ← tag.tag? origin Command.all Command.name
  if rest.isHoldable then ofFields? command rest else none

end Request

end OnboardStorage
