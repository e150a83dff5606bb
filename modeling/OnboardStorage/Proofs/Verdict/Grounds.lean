import OnboardStorage.Proofs.Precedence
import OnboardStorage.Service.Execution

/-!
# Grounds for turning an item down

What stands against an item is written here as a list of grounds, in order of
precedence.  The condition of each is one on the state just before the item, and
an item against which no ground stands is carried out.

The conditions are put in terms of what the state holds (settings, running
jobs, routes and packets) and not of how the service goes about checking them.
-/

namespace OnboardStorage

/-! ## Grounds against actions -/

/-- The jobs that forbid every change of layout or content. -/
def PacketStore.retrievalGrounds (store : PacketStore) : List (Ground Rejection) :=
  [⟨store.timeRangeActive = true, .timeRangeRetrievalInProgress⟩,
    ⟨store.openRetrieval = .inProgress, .openRetrievalInProgress⟩]

/-- What stands against an action on an existing store. -/
def Action.grounds (config : Config) (store : PacketStore) :
    Action → List (Ground Rejection)
  | .setStorage _ | .suspendOpen | .abortTimeRange => []
  | .startTimeRange range _ =>
      [⟨store.openRetrieval = .inProgress ∧
          config.capabilities.concurrentRetrieval = false, .openRetrievalInProgress⟩,
        ⟨store.timeRangeActive = true, .timeRangeRetrievalAlreadyEnabled⟩,
        ⟨range.stop ≤ range.start, .windowInvalid⟩]
  | .deleteContent _ | .changeKind _ => store.retrievalGrounds
  | .moveOpenStart _ =>
      [⟨store.openRetrieval = .inProgress, .openRetrievalInProgress⟩]
  | .resumeOpen _ =>
      [⟨store.timeRangeActive = true ∧
          config.capabilities.concurrentRetrieval = false,
        .timeRangeRetrievalInProgress⟩]
  | .resize size =>
      ⟨size = 0 ∨ config.maxStoreBytes < size, .sizeUnsupported⟩ ::
        store.retrievalGrounds
  | .changeChannel channel =>
      ⟨channel < config.virtualChannels.lowest ∨
          config.virtualChannels.highest < channel, .channelOutOfRange⟩ ::
        store.retrievalGrounds

/-! ## Grounds against items -/

/-- The answer to an item that is turned down. -/
inductive Verdict where
  /-- The item fails on account of a store. -/
  | failure (store : StoreId) (cause : Rejection)
  /-- The item names no kind of window. -/
  | unknownWindow (code : UInt8)
  deriving DecidableEq

namespace Verdict

/-- The failures that a verdict adds to those of `request`. -/
def failures (request : MessageType) : Verdict → List Failure
  | .failure store cause => [⟨request, some store, cause⟩]
  | .unknownWindow _ => []

/-- The internal errors that a verdict adds. -/
def internalErrors : Verdict → List UnknownWindowKind
  | .failure _ _ => []
  | .unknownWindow code => [⟨code⟩]

end Verdict

namespace Service

/-- What stands against an item about one store: that there is no such store,
or else the given grounds. -/
def groundsAbout (service : Service) (id : StoreId)
    (grounds : PacketStore → List (Ground Rejection)) : List (Ground Verdict) :=
  match service.registry.get? id with
  | none => [⟨True, .failure id .storeMissing⟩]
  | some store => (grounds store).map (Ground.map (.failure id))

/-- What stands against creating a store. -/
def creationGrounds (service : Service) (definition : StoreDefinition) :
    List (Ground Rejection) :=
  [⟨service.registry.get? definition.id ≠ none, .storeExists⟩,
    ⟨service.config.maxStores.toNat ≤ service.registry.size, .registryFull⟩,
    ⟨definition.virtualChannel < service.config.virtualChannels.lowest ∨
        service.config.virtualChannels.highest < definition.virtualChannel,
      .channelOutOfRange⟩,
    ⟨definition.size = 0 ∨ service.config.maxStoreBytes < definition.size,
      .sizeUnsupported⟩]

/-- What stands against deleting an existing store. -/
def deletionGrounds (service : Service) (id : StoreId) (store : PacketStore) :
    List (Ground Rejection) :=
  ⟨store.storageEnabled = true, .storageEnabled⟩ :: store.retrievalGrounds ++
    [⟨∃ serviceType, service.router.destination? serviceType = some id, .storeRouted⟩]

end Service

/-- What stands against copying between existing stores.  Only a window before a
tag leaves the start of the order unused, and only one after a tag its end. -/
def CopyOrder.grounds (order : CopyOrder) (source destination : PacketStore) :
    List (Ground Rejection) :=
  [⟨destination.packets ≠ [], .destinationNotEmpty⟩,
    ⟨source.packets = [], .copyFailed⟩,
    ⟨order.windowCode = WindowKind.fromTagToTag.code ∧ order.stop ≤ order.start,
      .windowInvalid⟩,
    ⟨(order.windowCode ≠ WindowKind.beforeTag.code ∧
          ∀ packet ∈ source.packets, packet.timeTag < order.start) ∨
        (order.windowCode ≠ WindowKind.afterTag.code ∧
          ∀ packet ∈ source.packets, order.stop < packet.timeTag),
      .windowMissesPackets⟩]

namespace Item

/-- What stands against an item. -/
def grounds (service : Service) : Item → List (Ground Verdict)
  | .act id action => service.groundsAbout id (action.grounds service.config)
  | .create definition =>
      (service.creationGrounds definition).map (Ground.map (.failure definition.id))
  | .delete id => service.groundsAbout id (service.deletionGrounds id)
  | .copy order =>
      match service.registry.get? order.source,
          service.registry.get? order.destination with
      | none, _ => [⟨True, .failure order.source .storeMissing⟩]
      | some _, none => [⟨True, .failure order.destination .storeMissing⟩]
      | some source, some destination =>
          ⟨∀ kind : WindowKind, order.windowCode ≠ kind.code,
              .unknownWindow order.windowCode⟩ ::
            (order.grounds source destination).map
              (Ground.map (.failure order.destination))

/-- The telecommand that an item belongs to. -/
def messageType : Item → MessageType
  | .act _ action => action.messageType
  | .create _ => .createStores
  | .delete _ => .deleteStores
  | .copy _ => .copyPackets

end Item

/-- The items of a request are answered in its name. -/
theorem Request.messageType_of_mem_items {registry : Registry} {request : Request}
    {item : Item} (member : item ∈ request.items registry) :
    item.messageType = request.messageType := by
  cases request with
  | reportContentSummary | reportStatus | reportConfiguration => cases member
  | copyPackets | changeTypeToCircular | changeTypeToBounded | changeVirtualChannel =>
      rw [items, itemsOn, List.mem_singleton] at member
      rw [member]
      rfl
  | _ =>
      rcases List.mem_map.mp member with ⟨_, _, rfl⟩
      rfl

end OnboardStorage
