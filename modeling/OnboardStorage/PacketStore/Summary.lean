import OnboardStorage.PacketStore
import OnboardStorage.StoreId

/-!
# Content summaries

A summary gives the tags at both ends of a store and how full it is, in whole
percent of its capacity.  Percentages are computed in 64 bits and reported in
16; a store without capacity counts as empty.
-/

namespace OnboardStorage

/-- Content of one store, as reported. -/
structure ContentSummary where
  storeId : StoreId
  oldestTag : Option TimeTag
  newestTag : Option TimeTag
  openRetrievalStart : TimeTag
  filledPercentage : UInt16
  /-- Share of the packets that open retrieval has yet to send. -/
  openRetrievalFilledPercentage : UInt16
  deriving DecidableEq

/-- `bytes` in whole percent of `capacity`, at most 65535. -/
def percentage (bytes : Nat) (capacity : UInt32) : UInt16 :=
  if capacity = 0 then 0
  else
    let percent := bytes.toUInt64 * 100 / capacity.toUInt64
    if percent ≤ 65535 then percent.toUInt16 else 65535

namespace PacketStore

/-- Bytes of the packets at or after the start of open retrieval. -/
def pendingBytes (store : PacketStore) : Nat :=
  Packet.totalSize
    (store.packets.filter fun packet => store.openRetrievalStart ≤ packet.timeTag)

/-- Summary of the store, reported under `id`. -/
def summary (store : PacketStore) (id : StoreId) : ContentSummary where
  storeId := id
  oldestTag := store.oldestTag?
  newestTag := store.newestTag?
  openRetrievalStart := store.openRetrievalStart
  filledPercentage := percentage store.storedBytes store.capacity
  openRetrievalFilledPercentage := percentage store.pendingBytes store.capacity

end PacketStore

end OnboardStorage
