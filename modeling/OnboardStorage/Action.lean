import OnboardStorage.Emission
import OnboardStorage.Guard

/-!
# Actions on one existing store

An action is what a telecommand asks of one store.  It is described in three
parts: what stands in its way (`Action.obstacle?`), the store after it
(`Action.effect`) and what is logged about it (`Action.notices`).  The last two
are meant only where nothing stands in the way.
-/

namespace OnboardStorage

/-- What a telecommand asks of one store. -/
inductive Action where
  | setStorage (enabled : Bool)
  | startTimeRange (range : TimeRange) (priority : Option UInt16)
  | deleteContent (limit : TimeTag)
  | moveOpenStart (start : TimeTag)
  | resumeOpen (priority : Option UInt16)
  | suspendOpen
  | abortTimeRange
  | resize (size : UInt32)
  | changeKind (kind : StoreKind)
  | changeChannel (channel : UInt8)
  deriving DecidableEq

namespace Action

/-- The telecommand that asks for the action. -/
def messageType : Action → MessageType
  | .setStorage true => .enableStorage
  | .setStorage false => .disableStorage
  | .startTimeRange _ _ => .startTimeRangeRetrieval
  | .deleteContent _ => .deleteContent
  | .moveOpenStart _ => .changeOpenRetrievalStart
  | .resumeOpen _ => .resumeOpenRetrieval
  | .suspendOpen => .suspendOpenRetrieval
  | .abortTimeRange => .abortTimeRangeRetrieval
  | .resize _ => .resizeStores
  | .changeKind .circular => .changeTypeToCircular
  | .changeKind .bounded => .changeTypeToBounded
  | .changeChannel _ => .changeVirtualChannel

/-- The first reason, if any, not to act on `store`. -/
def obstacle? (config : Config) (store : PacketStore) :
    Action → Option Rejection
  | .setStorage _ | .suspendOpen | .abortTimeRange => none
  | .startTimeRange range _ =>
      (store.blocker? config.capabilities .startTimeRange).or
        (Window.between range.start range.stop).fault?
  | .deleteContent _ => store.blocker? config.capabilities .deleteContent
  | .moveOpenStart _ => store.blocker? config.capabilities .moveOpenStart
  | .resumeOpen _ => store.blocker? config.capabilities .resumeOpen
  | .resize size =>
      if config.acceptsStoreSize size then
        store.blocker? config.capabilities .resize
      else some .sizeUnsupported
  | .changeKind _ => store.blocker? config.capabilities .changeKind
  | .changeChannel channel =>
      if config.virtualChannels.contains channel then
        store.blocker? config.capabilities .changeChannel
      else some .channelOutOfRange

/-- The retrieval priority of `store` after a request that may carry one. -/
def heededPriority (capabilities : Capabilities) (store : PacketStore)
    (priority : Option UInt16) : UInt16 :=
  if capabilities.prioritizedRetrieval then
    priority.getD store.retrievalPriority
  else store.retrievalPriority

/-- The store after the action. -/
def effect (config : Config) (store : PacketStore) : Action → PacketStore
  | .setStorage enabled => { store with storageEnabled := enabled }
  | .startTimeRange range priority =>
      { store with
        timeRangeRetrieval := some range
        retrievalPriority := heededPriority config.capabilities store priority }
  | .deleteContent limit => (store.deleteUntil limit).1
  | .moveOpenStart start => { store with openRetrievalStart := start }
  | .resumeOpen priority =>
      { store with
        openRetrieval := .inProgress
        retrievalPriority := heededPriority config.capabilities store priority }
  | .suspendOpen => { store with openRetrieval := .suspended }
  | .abortTimeRange => { store with timeRangeRetrieval := none }
  | .resize size => (store.resize size).1
  | .changeKind kind => { store with kind := kind }
  | .changeChannel channel => { store with virtualChannel := channel }

/-- What is logged when the action is carried out on `store`, named `id`. -/
def notices (id : StoreId) (store : PacketStore) (action : Action) :
    List Notice :=
  match action with
  | .startTimeRange range _ => [.retrievalStarted range id]
  | .resize size =>
      let evicted := (store.resize size).2
      if evicted = 0 then [] else [.resizeEvicted id size evicted]
  | .deleteContent limit =>
      [.contentDeleted (store.deleteUntil limit).2 limit,
        .applied action.messageType id]
  | _ => [.applied action.messageType id]

end Action

end OnboardStorage
