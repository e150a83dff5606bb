import OnboardStorage.Action
import OnboardStorage.PacketStore.Copy
import OnboardStorage.Service

/-!
# Items of telecommands

A telecommand is carried out item by item.  An item is either carried out
completely or rejected for one cause, and a rejected item leaves the service as
it was.  Each kind of item checks its causes in a fixed order, and the first
that applies is the one reported.
-/

namespace OnboardStorage

/-- One item of a telecommand. -/
inductive Item where
  /-- Act on an existing store. -/
  | act (store : StoreId) (action : Action)
  | create (definition : StoreDefinition)
  | delete (store : StoreId)
  | copy (order : CopyOrder)
  deriving DecidableEq

namespace Service

/-! ## Acting on one store -/

/-- Act on the store named `id`. -/
def act (service : Service) (id : StoreId) (action : Action) :
    Service × Emission :=
  match service.registry.get? id with
  | none => (service, .rejection action.messageType id .storeMissing)
  | some store =>
      match action.obstacle? service.config store with
      | some cause => (service, .rejection action.messageType id cause)
      | none =>
          ({ service with
              registry := service.registry.modify id
                fun store => action.effect service.config store },
            .ofNotices (action.notices id store))

/-! ## Creating and deleting stores -/

/-- The first reason, if any, not to create a store. -/
def creationObstacle? (service : Service) (definition : StoreDefinition) :
    Option Rejection :=
  if service.registry.contains definition.id then some .storeExists
  else if service.registry.isFull then some .registryFull
  else if !service.config.virtualChannels.contains definition.virtualChannel then
    some .channelOutOfRange
  else if !service.config.acceptsStoreSize definition.size then
    some .sizeUnsupported
  else none

/-- Create a store. -/
def create (service : Service) (definition : StoreDefinition) :
    Service × Emission :=
  match service.creationObstacle? definition with
  | some cause => (service, .rejection .createStores definition.id cause)
  | none =>
      let store :=
        PacketStore.create definition.size definition.kind definition.virtualChannel
      match service.registry.create definition.id store with
      | .error cause => (service, .rejection .createStores definition.id cause)
      | .ok registry =>
          ({ service with registry := registry }, .ofNotices [.created definition])

/-- The first reason, if any, not to delete the store named `id`. -/
def deletionObstacle? (service : Service) (id : StoreId) : Option Rejection :=
  match service.registry.get? id with
  | none => some .storeMissing
  | some store =>
      (store.blocker? service.config.capabilities .delete).or
        (if service.router.isRouted id then some .storeRouted else none)

/-- Delete the store named `id`. -/
def delete (service : Service) (id : StoreId) : Service × Emission :=
  match service.deletionObstacle? id with
  | some .storeRouted =>
      (service,
        .ofNotices [.stillRouted id (service.router.servicesFor id)] ++
          .rejection .deleteStores id .storeRouted)
  | some cause => (service, .rejection .deleteStores id cause)
  | none =>
      ({ service with registry := service.registry.remove id },
        .ofNotices [.deleted id])

/-! ## Copying -/

/-- What is logged about a copy that took place. -/
def copyNotices (order : CopyOrder) (kind : WindowKind) (outcome : CopyOutcome) :
    List Notice :=
  .copied outcome.copied order.source order.destination kind ::
    if outcome.rejected = 0 ∧ outcome.evicted = 0 then []
    else [.copyTruncated order.destination outcome.rejected outcome.evicted]

/-- Copy between two existing stores; a store is never copied into itself. -/
def copyBetween (service : Service) (order : CopyOrder) (kind : WindowKind) :
    Service × Emission :=
  match service.registry.sourceAndDestination? order.source order.destination with
  | some (source, destination) =>
      let window := Window.ofKind kind order.start order.stop
      let (changed, result) := source.copyWindow destination window
      ({ service with
          registry := service.registry.modify order.destination fun _ => changed },
        match result with
        | .ok outcome => .ofNotices (copyNotices order kind outcome)
        | .error cause => .rejection .copyPackets order.destination cause)
  | none =>
      let cause : Rejection :=
        if (service.registry.get? order.destination).any fun store => !store.isEmpty
        then .destinationNotEmpty else .copyFailed
      (service, .rejection .copyPackets order.destination cause)

/-- Copy the packets of a time window.  A store that does not exist is reported
before an unknown kind of window, and the source before the destination. -/
def copy (service : Service) (order : CopyOrder) : Service × Emission :=
  if !service.registry.contains order.source then
    (service, .rejection .copyPackets order.source .storeMissing)
  else if !service.registry.contains order.destination then
    (service, .rejection .copyPackets order.destination .storeMissing)
  else match WindowKind.ofCode order.windowCode with
    | .error unknown =>
        (service,
          ⟨[], [], [unknown],
            [.copyAborted order.source order.destination unknown]⟩)
    | .ok kind => service.copyBetween order kind

/-! ## Any item, any number of items -/

/-- Carry out one item. -/
def perform (service : Service) : Item → Service × Emission
  | .act id action => service.act id action
  | .create definition => service.create definition
  | .delete id => service.delete id
  | .copy order => service.copy order

/-- Carry out items in turn. -/
def performEach (service : Service) : List Item → Service × Emission
  | [] => (service, .silent)
  | item :: rest =>
      let (next, first) := service.perform item
      let (final, others) := next.performEach rest
      (final, first ++ others)

@[simp]
theorem performEach_nil (service : Service) :
    service.performEach [] = (service, .silent) :=
  rfl

theorem performEach_cons (service : Service) (item : Item) (rest : List Item) :
    service.performEach (item :: rest) =
      (((service.perform item).1.performEach rest).1,
        (service.perform item).2 ++ ((service.perform item).1.performEach rest).2) :=
  rfl

/-- Items carried out in two portions are carried out in turn. -/
theorem performEach_append (service : Service) (first second : List Item) :
    service.performEach (first ++ second) =
      (((service.performEach first).1.performEach second).1,
        (service.performEach first).2 ++
          ((service.performEach first).1.performEach second).2) := by
  induction first generalizing service with
  | nil => simp
  | cons item rest ih =>
      simp only [List.cons_append, performEach_cons, ih, Emission.append_assoc]

end Service

end OnboardStorage
