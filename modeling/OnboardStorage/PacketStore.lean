import OnboardStorage.PacketQueue

/-!
# Packet stores

A packet store is a byte-bounded queue of packets with the settings and
retrieval jobs that belong to it.  The record is plain: that the content fits
its capacity, or that its tags ascend, is not assumed here, because a snapshot
may describe a store for which neither holds.
-/

namespace OnboardStorage

/-- What a store does when a packet does not fit beside the stored ones. -/
inductive StoreKind where
  /-- The oldest packets make room. -/
  | circular
  /-- The new packet is refused. -/
  | bounded
  deriving DecidableEq, Repr

namespace StoreKind

/-- Both kinds, in the order of their codes. -/
def all : List StoreKind :=
  [.circular, .bounded]

/-- Code of the kind in telecommands. -/
def code : StoreKind → Nat
  | .circular => 0
  | .bounded => 1

/-- The kind with a given code. -/
def ofCode? (code : Nat) : Option StoreKind :=
  all.find? fun kind => kind.code = code

/-- Name of the kind in written records. -/
def name : StoreKind → String
  | .circular => "circular"
  | .bounded => "bounded"

/-- Name of the kind in log lines. -/
def label : StoreKind → String
  | .circular => "Circular"
  | .bounded => "Bounded"

end StoreKind

/-- Whether the open retrieval of a store is running. -/
inductive OpenRetrieval where
  | inProgress
  | suspended
  deriving DecidableEq, Repr

namespace OpenRetrieval

/-- Both states. -/
def all : List OpenRetrieval :=
  [.inProgress, .suspended]

/-- Name of the state in written records. -/
def name : OpenRetrieval → String
  | .inProgress => "in_progress"
  | .suspended => "suspended"

end OpenRetrieval

/-- First and last tag of a by-time-range retrieval. -/
structure TimeRange where
  start : TimeTag
  stop : TimeTag
  deriving DecidableEq, Repr

/-- A packet store: settings, retrieval jobs and content. -/
structure PacketStore where
  /-- Most bytes the store may hold. -/
  capacity : UInt32
  kind : StoreKind
  /-- Downlink channel of the store. -/
  virtualChannel : UInt8
  /-- Whether telemetry reports are filed into the store. -/
  storageEnabled : Bool
  openRetrieval : OpenRetrieval
  /-- Where open retrieval resumes. -/
  openRetrievalStart : TimeTag
  /-- The outstanding by-time-range retrieval, if any. -/
  timeRangeRetrieval : Option TimeRange
  retrievalPriority : UInt16
  content : PacketQueue
  deriving DecidableEq

namespace PacketStore

/-- A new store: empty, storage off, no retrieval running. -/
def create (capacity : UInt32) (kind : StoreKind) (virtualChannel : UInt8) :
    PacketStore where
  capacity := capacity
  kind := kind
  virtualChannel := virtualChannel
  storageEnabled := false
  openRetrieval := .suspended
  openRetrievalStart := 0
  timeRangeRetrieval := none
  retrievalPriority := 0
  content := PacketQueue.empty

/-- Stored packets, oldest first. -/
def packets (store : PacketStore) : List Packet :=
  store.content.packets

/-- Bytes of all stored packets. -/
def storedBytes (store : PacketStore) : Nat :=
  store.content.bytes

/-- Whether the store holds no packet. -/
def isEmpty (store : PacketStore) : Bool :=
  store.packets.isEmpty

/-- Tag of the oldest packet. -/
def oldestTag? (store : PacketStore) : Option TimeTag :=
  store.packets.head?.map Packet.timeTag

/-- Tag of the newest packet. -/
def newestTag? (store : PacketStore) : Option TimeTag :=
  store.content.newest?.map Packet.timeTag

/-- Whether a by-time-range retrieval is outstanding. -/
def timeRangeActive (store : PacketStore) : Bool :=
  store.timeRangeRetrieval.isSome

theorem storedBytes_eq (store : PacketStore) :
    store.storedBytes = Packet.totalSize store.packets :=
  store.content.bytes_eq

theorem newestTag?_eq (store : PacketStore) :
    store.newestTag? = store.packets.getLast?.map Packet.timeTag :=
  congrArg (Option.map Packet.timeTag) store.content.newest?_eq

end PacketStore

end OnboardStorage
