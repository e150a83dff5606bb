import OnboardStorage.Datum.Holding
import OnboardStorage.Layout.Record
import OnboardStorage.Snapshot

/-!
# Written form of packet stores and snapshots

Reading checks that each field is there and in the range of its type, nothing
more: a store that holds more than its capacity, or packets out of order, is
read as it stands.  The byte count of a store is not written; it is counted
afresh.
-/

namespace OnboardStorage

open Datum

/-! ## Identifiers and alternatives -/

/-- Written form of an identifier. -/
def StoreId.toDatum (id : StoreId) : Datum :=
  .text id.text

/-- Read an identifier. -/
def StoreId.ofDatum? (datum : Datum) : Option StoreId :=
  datum.text?.bind fun text => (ofText text).toOption

/-- Written form of a kind of store. -/
def StoreKind.toDatum (kind : StoreKind) : Datum :=
  .text kind.name

/-- Read a kind of store. -/
def StoreKind.ofDatum? (origin : Origin) (datum : Datum) : Option StoreKind :=
  datum.oneOf? origin all name

/-- Written form of the state of open retrieval. -/
def OpenRetrieval.toDatum (state : OpenRetrieval) : Datum :=
  .text state.name

/-- Read the state of open retrieval. -/
def OpenRetrieval.ofDatum? (origin : Origin) (datum : Datum) :
    Option OpenRetrieval :=
  datum.oneOf? origin all name

/-! ## Packets -/

/-- Written form of a packet. -/
def Packet.toDatum (packet : Packet) : Datum :=
  .record
    [("time_tag", .ofNat packet.timeTag.toNat),
      ("data", .list (packet.data.map fun byte => .ofNat byte.toNat))]

/-- Read a packet. -/
def Packet.ofDatum? (origin : Origin) (datum : Datum) : Option Packet := do
  let field ← datum.fields? origin ["time_tag", "data"]
  let timeTag ← required word32? (field "time_tag")
  let data ← required (listOf? word8?) (field "data")
  return ⟨timeTag, data⟩

/-! ## Stores -/

/-- Written form of a range of tags. -/
def TimeRange.toDatum (range : TimeRange) : Datum :=
  .record [("start", .ofNat range.start.toNat), ("end", .ofNat range.stop.toNat)]

/-- Read a range of tags. -/
def TimeRange.ofDatum? (origin : Origin) (datum : Datum) : Option TimeRange := do
  let field ← datum.fields? origin ["start", "end"]
  let start ← required word32? (field "start")
  let stop ← required word32? (field "end")
  return ⟨start, stop⟩

namespace PacketStore

/-- Names of the fields of a store, in order. -/
def layout : List String :=
  ["capacity_bytes", "store_type", "virtual_channel", "storage_status",
    "open_retrieval_status", "open_retrieval_start_tag",
    "by_time_range_retrieval", "retrieval_priority", "packets"]

/-- Written fields of a store, in order. -/
def toFields (store : PacketStore) : List (String × Datum) :=
  [("capacity_bytes", .ofNat store.capacity.toNat),
    ("store_type", store.kind.toDatum),
    ("virtual_channel", .ofNat store.virtualChannel.toNat),
    ("storage_status", .flag store.storageEnabled),
    ("open_retrieval_status", store.openRetrieval.toDatum),
    ("open_retrieval_start_tag", .ofNat store.openRetrievalStart.toNat),
    ("by_time_range_retrieval",
      .ofOption TimeRange.toDatum store.timeRangeRetrieval),
    ("retrieval_priority", .ofNat store.retrievalPriority.toNat),
    ("packets", .list (store.packets.map Packet.toDatum))]

/-- Written form of a store. -/
def toDatum (store : PacketStore) : Datum :=
  .record store.toFields

/-- Read a store. -/
def ofDatum? (origin : Origin) (datum : Datum) : Option PacketStore := do
  let field ← datum.fields? origin layout
  let capacity ← required word32? (field "capacity_bytes")
  let kind ← required (StoreKind.ofDatum? origin) (field "store_type")
  let virtualChannel ← required word8? (field "virtual_channel")
  let storageEnabled ← required flag? (field "storage_status")
  let openRetrieval ←
    required (OpenRetrieval.ofDatum? origin) (field "open_retrieval_status")
  let openRetrievalStart ← required word32? (field "open_retrieval_start_tag")
  let timeRangeRetrieval ←
    optional (TimeRange.ofDatum? origin) (field "by_time_range_retrieval")
  let retrievalPriority ← required word16? (field "retrieval_priority")
  let packets ← required (listOf? (Packet.ofDatum? origin)) (field "packets")
  return {
    capacity, kind, virtualChannel, storageEnabled, openRetrieval,
    openRetrievalStart, timeRangeRetrieval, retrievalPriority
    content := .ofPackets packets }

end PacketStore

/-! ## Snapshots -/

namespace Snapshot

/-- Written form of one store of a snapshot: its identifier, then its fields. -/
def entryToDatum (entry : StoreId × PacketStore) : Datum :=
  .record (("id", entry.1.toDatum) :: entry.2.toFields)

/-- Read one store of a snapshot.  Its fields are shared between identifier and
store, so it has to be written with names. -/
def entryOfDatum? : Datum → Option (StoreId × PacketStore)
  | .record fields => do
      let (given, rest) ← (Datum.record fields).tagged? "id"
      let id ← StoreId.ofDatum? given
      let store ←
        if rest.isHoldable then PacketStore.ofDatum? .held rest else none
      return (id, store)
  | _ => none

/-- Written form of a snapshot. -/
def toDatum (snapshot : Snapshot) : Datum :=
  .record [("stores", .list (snapshot.entries.map entryToDatum))]

/-- Read a snapshot. -/
def ofDatum? (datum : Datum) : Option Snapshot := do
  let field ← datum.fields? .plain ["stores"]
  let entries ← required (listOf? entryOfDatum?) (field "stores")
  return ⟨entries⟩

end Snapshot

end OnboardStorage
