import OnboardStorage.PacketStore

/-!
# Admission of packets and change of capacity

A packet is refused for the first of a fixed list of causes, and a refusal
leaves the store as it was.  An accepted packet becomes the newest one; a
circular store first gives up as few of its oldest packets as will make room.
The same eviction brings the content within a new, smaller capacity.
-/

namespace OnboardStorage

/-- Why a telemetry report is not stored. -/
inductive Refusal where
  /-- A bounded store has no room beside its packets. -/
  | storeFull
  /-- The message could not fit even into the empty store. -/
  | exceedsCapacity (size capacity : Nat)
  /-- The message is longer than the platform accepts. -/
  | exceedsMessageLimit (size limit : Nat)
  /-- The tag lies before that of the newest stored packet. -/
  | outOfOrder (tag newest : TimeTag)
  | emptyMessage
  /-- The service type is routed to a store that does not exist. -/
  | unknownStore
  deriving DecidableEq, Repr

/-- Wording of the refusal. -/
def Refusal.message : Refusal → String
  | .storeFull => "packet store is full"
  | .exceedsCapacity size capacity =>
      s!"message of {size} bytes exceeds packet store capacity of {capacity} bytes"
  | .exceedsMessageLimit size limit =>
      s!"message of {size} bytes exceeds platform maximum of {limit} bytes"
  | .outOfOrder tag newest =>
      s!"time tag {tag} precedes newest stored packet at {newest}"
  | .emptyMessage => "empty message"
  | .unknownStore => "routed packet store does not exist"

/-- What became of a report that was not refused. -/
inductive Insertion where
  /-- Stored, after the given number of packets made room. -/
  | stored (evicted : Nat)
  | storageDisabled
  | notRouted
  deriving DecidableEq, Repr

namespace PacketStore

/-- The first cause, if any, for refusing `packet`. -/
def refusal? (store : PacketStore) (packet : Packet) : Option Refusal :=
  if packet.data.isEmpty then some .emptyMessage
  else match store.newestTag?.filter (packet.timeTag < ·) with
    | some newest => some (.outOfOrder packet.timeTag newest)
    | none =>
        if store.capacity.toNat < packet.size then
          some (.exceedsCapacity packet.size store.capacity.toNat)
        else if store.kind = .bounded ∧
            store.capacity.toNat < store.storedBytes + packet.size then
          some .storeFull
        else none

/-- Make `packet` the newest packet, whether or not storage is enabled; answers the
store afterwards and how many packets made room, or why the packet is refused. -/
def accept (store : PacketStore) (packet : Packet) : PacketStore × Except Refusal Nat :=
  match store.refusal? packet with
  | some refusal => (store, .error refusal)
  | none =>
      let room := store.content.evictTo (store.capacity.toNat - packet.size)
      ({ store with content := room.1.push packet }, .ok room.2)

/-- File `packet` into the store if its storage is enabled; answers the store
afterwards and what became of the packet. -/
def file (store : PacketStore) (packet : Packet) :
    PacketStore × Except Refusal Insertion :=
  if store.storageEnabled then
    let (changed, answer) := store.accept packet
    (changed, answer.map .stored)
  else (store, .ok .storageDisabled)

/-- File `packet`, for a caller to whom a refusal is nothing but its cause. -/
def insert (store : PacketStore) (packet : Packet) :
    Except Refusal (PacketStore × Insertion) :=
  let (changed, answer) := store.file packet
  answer.map fun insertion => (changed, insertion)

/-- Change the capacity, giving up the oldest packets that no longer fit; also
answers how many were given up. -/
def resize (store : PacketStore) (capacity : UInt32) : PacketStore × Nat :=
  let kept := store.content.evictTo capacity.toNat
  ({ store with capacity := capacity, content := kept.1 }, kept.2)

/-- Remove the packets up to the first one tagged after `limit`; also answers
how many were removed. -/
def deleteUntil (store : PacketStore) (limit : TimeTag) : PacketStore × Nat :=
  let kept := store.content.deleteUntil limit
  ({ store with content := kept.1 }, kept.2)

/-- A bounded store that takes a packet gives up none. -/
theorem evictTo_of_bounded {store : PacketStore} {packet : Packet}
    (hkind : store.kind = .bounded) (hnone : store.refusal? packet = none) :
    (store.content.evictTo (store.capacity.toNat - packet.size)).2 = 0 := by
  have hroom : store.content.bytes ≤ store.capacity.toNat - packet.size := by
    simp only [refusal?] at hnone
    split at hnone
    · simp at hnone
    · split at hnone
      · simp at hnone
      · split at hnone
        · simp at hnone
        · rename_i hsize
          split at hnone
          · simp at hnone
          · rename_i hfull
            have hfits : ¬ store.capacity.toNat < store.storedBytes + packet.size :=
              fun h => hfull ⟨hkind, h⟩
            simp only [storedBytes] at hfits
            omega
  rw [PacketQueue.evicted_eq, PacketQueue.excess_eq_zero _ hroom]

end PacketStore

end OnboardStorage
