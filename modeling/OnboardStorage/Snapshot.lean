import OnboardStorage.Config
import OnboardStorage.Registry

/-!
# Snapshots of the registry

A snapshot lists stores by identifier.  One taken from a registry is in
ascending order, but a snapshot may come from anywhere, so nothing is assumed
of it: `Snapshot.toRegistry` checks every entry against a configuration before
a registry is built.  The first entry that fails decides the error.
-/

namespace OnboardStorage

/-- Stores by identifier, in the order they are listed. -/
structure Snapshot where
  entries : List (StoreId × PacketStore)
  deriving DecidableEq

namespace Snapshot

/-- The snapshot without stores. -/
def empty : Snapshot :=
  ⟨[]⟩

/-- What is wrong with one store of a snapshot. -/
inductive Defect where
  | unsupportedSize (capacity : UInt32)
  | invalidChannel (channel : UInt8)
  | invalidRetrievalWindow
  | packetsOutOfOrder
  | emptyMessage
  | messageTooLong (bytes : Nat)
  | contentExceedsCapacity
  /-- The registry does not take the store. -/
  | refused (cause : Rejection)
  deriving DecidableEq, Repr

/-- Why a snapshot is not restored. -/
inductive Fault where
  | tooManyStores (given limit : Nat)
  | defective (store : StoreId) (defect : Defect)
  deriving DecidableEq

/-- Wording of the fault. -/
def Fault.message : Fault → String
  | .tooManyStores given limit =>
      s!"{given} stores exceed the platform limit of {limit}"
  | .defective store defect =>
      s!"Store {store.text}" ++
        match defect with
        | .unsupportedSize capacity => s!" has unsupported size {capacity}"
        | .invalidChannel channel => s!" uses invalid virtual channel {channel}"
        | .invalidRetrievalWindow => " has an invalid retrieval window"
        | .packetsOutOfOrder => " packets are not in time order"
        | .emptyMessage => " holds an empty message"
        | .messageTooLong bytes => s!" holds a {bytes} byte message"
        | .contentExceedsCapacity => " content exceeds its capacity"
        | .refused cause => s!": {cause.message}"

/-- The first defect of packets that follow one tagged `previous`. -/
def packetDefect? (maxBytes : Nat) (previous : Option TimeTag) :
    List Packet → Option Defect
  | [] => none
  | packet :: rest =>
      if previous.any (packet.timeTag < ·) then some .packetsOutOfOrder
      else if packet.data.isEmpty then some .emptyMessage
      else if maxBytes < packet.size then some (.messageTooLong packet.size)
      else packetDefect? maxBytes (some packet.timeTag) rest

/-- The first defect of a store, under a configuration. -/
def defect? (config : Config) (store : PacketStore) : Option Defect :=
  if !config.acceptsStoreSize store.capacity then
    some (.unsupportedSize store.capacity)
  else if !config.virtualChannels.contains store.virtualChannel then
    some (.invalidChannel store.virtualChannel)
  else if store.timeRangeRetrieval.any fun range => range.stop ≤ range.start then
    some .invalidRetrievalWindow
  else match packetDefect? config.maxMessageBytes.toNat none store.packets with
    | some defect => some defect
    | none =>
        if store.capacity.toNat < store.storedBytes then
          some .contentExceedsCapacity
        else none

/-- Add the entries in turn, up to the first one that is defective. -/
def addEach (config : Config) (registry : Registry) :
    List (StoreId × PacketStore) → Except Fault Registry
  | [] => .ok registry
  | (id, store) :: rest =>
      match defect? config store with
      | some defect => .error (.defective id defect)
      | none =>
          match registry.create id store with
          | .error cause => .error (.defective id (.refused cause))
          | .ok extended => addEach config extended rest

/-- The registry that a snapshot describes, if a platform of the given
configuration could hold it. -/
def toRegistry (config : Config) (snapshot : Snapshot) : Except Fault Registry :=
  let fresh := Registry.empty config.maxStores.toNat
  if fresh.limit < snapshot.entries.length then
    .error (.tooManyStores snapshot.entries.length fresh.limit)
  else addEach config fresh snapshot.entries

end Snapshot

/-- The stores of a registry, by ascending identifier. -/
def Registry.snapshot (registry : Registry) : Snapshot :=
  ⟨registry.stores.entries⟩

end OnboardStorage
