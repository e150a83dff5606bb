import OnboardStorage.PacketStore.Summary
import OnboardStorage.Registry
import OnboardStorage.Request

/-!
# Reports and failures

A report lists one entry per store.  A failure says which item of which
request was rejected, and why.
-/

namespace OnboardStorage

/-- Status of one store, as reported. -/
structure StoreStatus where
  storeId : StoreId
  storageEnabled : Bool
  openRetrieval : OpenRetrieval
  timeRangeActive : Bool
  deriving DecidableEq

/-- Settings of one store, as reported. -/
structure StoreConfiguration where
  storeId : StoreId
  size : UInt32
  kind : StoreKind
  virtualChannel : UInt8
  deriving DecidableEq

namespace PacketStore

/-- Status of the store, reported under `id`. -/
def status (store : PacketStore) (id : StoreId) : StoreStatus where
  storeId := id
  storageEnabled := store.storageEnabled
  openRetrieval := store.openRetrieval
  timeRangeActive := store.timeRangeActive

/-- Settings of the store, reported under `id`. -/
def configuration (store : PacketStore) (id : StoreId) : StoreConfiguration where
  storeId := id
  size := store.capacity
  kind := store.kind
  virtualChannel := store.virtualChannel

end PacketStore

/-- A telemetry report of the service. -/
inductive Report where
  | status (stores : List StoreStatus)
  | configuration (stores : List StoreConfiguration)
  | contentSummary (stores : List ContentSummary)
  deriving DecidableEq

/-- The message that carries a report. -/
def Report.messageType : Report → MessageType
  | .status _ => .statusReport
  | .configuration _ => .configurationReport
  | .contentSummary _ => .contentSummaryReport

/-- A rejected item. -/
structure Failure where
  /-- The request that the item belongs to. -/
  messageType : MessageType
  /-- The store that the item names. -/
  store : Option StoreId
  cause : Rejection
  deriving DecidableEq

namespace Registry

/-- Status of every store, by ascending identifier. -/
def statusReport (registry : Registry) : Report :=
  .status (registry.stores.entries.map fun entry => entry.2.status entry.1)

/-- Settings of every store, by ascending identifier. -/
def configurationReport (registry : Registry) : Report :=
  .configuration
    (registry.stores.entries.map fun entry => entry.2.configuration entry.1)

end Registry

end OnboardStorage
