import OnboardStorage.Proofs.Operation
import OnboardStorage.Proofs.SlotTable

/-!
# The service over slots

A platform that keeps its stores in slots does everything there: it looks a store up,
adds one behind the last slot, moves the last one when a store is removed, and sorts
identifiers only when it needs them in order.  The service is written out here in this
way, from single items to whole runs.

Such a service stands for the one that keeps the same stores in a registry.  Whatever
is done to it, it answers as that one does and stands for that one again.  So every law
of runs that is proved with a registry holds with slots, and no run shows what order
the slots are in.
-/

namespace OnboardStorage

/-- State of a service that keeps its stores in slots. -/
structure SlotService where
  config : Config
  table : SlotTable
  router : Router
  clock : Clock

/-! ## Reports on slots -/

namespace SlotTable

/-- Whether a store is named `id`. -/
def contains (table : SlotTable) (id : StoreId) : Bool :=
  (table.get? id).isSome

/-- The stores that a list of identifiers stands for. -/
def targets (table : SlotTable) (stores : List StoreId) : List StoreId :=
  if stores.isEmpty then table.ids else stores

/-- The reports that a request asks for, and the stores they miss. -/
def reporting (table : SlotTable) : Request → Emission
  | .reportContentSummary stores =>
      ((table.targets stores).filter fun id => !table.contains id).foldr
        (fun id later =>
          Emission.rejection .reportContentSummary id .storeMissing ++ later)
        (.ofReport (.contentSummary
          (table.listing PacketStore.summary (table.targets stores))))
  | .reportStatus => .ofReport (.status (table.listing PacketStore.status table.ids))
  | .reportConfiguration =>
      .ofReport (.configuration (table.listing PacketStore.configuration table.ids))
  | _ => .silent

theorem contains_eq (table : SlotTable) : table.contains = table.registry.contains := by
  funext id
  rw [contains, Registry.contains, get?_registry]

theorem targets_eq (table : SlotTable) : table.targets = table.registry.targets := by
  funext stores
  rw [targets, ids_eq, Registry.targets]

theorem reporting_eq (table : SlotTable) (request : Request) :
    table.reporting request = request.reporting table.registry := by
  cases request with
  | reportContentSummary stores =>
      rw [reporting, contains_eq, targets_eq, listing_eq]
      rfl
  | reportStatus =>
      rw [reporting, listing_eq, ids_eq, Registry.listing_ids]
      rfl
  | reportConfiguration =>
      rw [reporting, listing_eq, ids_eq, Registry.listing_ids]
      rfl
  | _ => rfl

end SlotTable

/-! ## What a service over slots does -/

namespace SlotService

/-- A service without stores, if the configuration describes a platform. -/
def start (config : Config) (clock : Clock) :
    Except Config.Fault (SlotService × List Notice) :=
  match config.check with
  | .error fault => .error fault
  | .ok () =>
      match Router.ofRoutes config.routes with
      | .error fault => .error (.routing fault)
      | .ok router =>
          .ok (⟨config, SlotTable.empty config.maxStores.toNat, router, clock⟩,
            config.routes.map fun route => .routing route.serviceType route.store)

/-- Drop every store; the routes stay. -/
def reset (slots : SlotService) : SlotService × List Notice :=
  ({ slots with table := slots.table.clear }, [.dropping slots.table.size])

/-- The stores of the service. -/
def snapshot (slots : SlotService) : Snapshot :=
  slots.table.snapshot

/-- Replace all stores by those of a snapshot. -/
def restore (slots : SlotService) (snapshot : Snapshot) :
    Except Snapshot.Fault (SlotService × List Notice) :=
  match SlotTable.ofSnapshot slots.config snapshot with
  | .error fault => .error fault
  | .ok table => .ok ({ slots with table := table }, [.restored table.size])

/-- Stamp a report with the clock and file it into the store it is routed to. -/
def storeReport (slots : SlotService) (serviceType : UInt8) (data : List UInt8) :
    SlotService × Except Refusal Insertion × List Notice :=
  match slots.router.destination? serviceType with
  | none => (slots, .ok .notRouted, [])
  | some id =>
      match slots.table.get? id with
      | none => (slots, .error .unknownStore, [])
      | some store =>
          if !store.storageEnabled then (slots, .ok .storageDisabled, [])
          else if slots.config.maxMessageBytes.toNat < data.length then
            (slots,
              .error (.exceedsMessageLimit data.length
                slots.config.maxMessageBytes.toNat), [])
          else
            let (changed, answer) := store.file ⟨slots.clock.reading, data⟩
            ({ slots with table := slots.table.modify id fun _ => changed },
              answer,
              match answer with
              | .error refusal => [.reportRefused serviceType id refusal]
              | .ok (.stored evicted) =>
                  if evicted = 0 then [] else [.reportEvicted id evicted serviceType]
              | .ok _ => [])

/-- Act on the store named `id`. -/
def act (slots : SlotService) (id : StoreId) (action : Action) : SlotService × Emission :=
  match slots.table.get? id with
  | none => (slots, .rejection action.messageType id .storeMissing)
  | some store =>
      match action.obstacle? slots.config store with
      | some cause => (slots, .rejection action.messageType id cause)
      | none =>
          ({ slots with
              table := slots.table.modify id fun store => action.effect slots.config store },
            .ofNotices (action.notices id store))

/-- The first reason, if any, not to create a store. -/
def creationObstacle? (slots : SlotService) (definition : StoreDefinition) :
    Option Rejection :=
  if slots.table.contains definition.id then some .storeExists
  else if slots.table.isFull then some .registryFull
  else if !slots.config.virtualChannels.contains definition.virtualChannel then
    some .channelOutOfRange
  else if !slots.config.acceptsStoreSize definition.size then some .sizeUnsupported
  else none

/-- Create a store. -/
def create (slots : SlotService) (definition : StoreDefinition) : SlotService × Emission :=
  match slots.creationObstacle? definition with
  | some cause => (slots, .rejection .createStores definition.id cause)
  | none =>
      let store :=
        PacketStore.create definition.size definition.kind definition.virtualChannel
      match slots.table.create definition.id store with
      | .error cause => (slots, .rejection .createStores definition.id cause)
      | .ok table => ({ slots with table := table }, .ofNotices [.created definition])

/-- The first reason, if any, not to delete the store named `id`. -/
def deletionObstacle? (slots : SlotService) (id : StoreId) : Option Rejection :=
  match slots.table.get? id with
  | none => some .storeMissing
  | some store =>
      (store.blocker? slots.config.capabilities .delete).or
        (if slots.router.isRouted id then some .storeRouted else none)

/-- Delete the store named `id`. -/
def delete (slots : SlotService) (id : StoreId) : SlotService × Emission :=
  match slots.deletionObstacle? id with
  | some .storeRouted =>
      (slots,
        .ofNotices [.stillRouted id (slots.router.servicesFor id)] ++
          .rejection .deleteStores id .storeRouted)
  | some cause => (slots, .rejection .deleteStores id cause)
  | none => ({ slots with table := slots.table.remove id }, .ofNotices [.deleted id])

/-- Copy between two existing stores. -/
def copyBetween (slots : SlotService) (order : CopyOrder) (kind : WindowKind) :
    SlotService × Emission :=
  match slots.table.sourceAndDestination? order.source order.destination with
  | some (source, destination) =>
      let window := Window.ofKind kind order.start order.stop
      let (changed, result) := source.copyWindow destination window
      ({ slots with table := slots.table.modify order.destination fun _ => changed },
        match result with
        | .ok outcome => .ofNotices (Service.copyNotices order kind outcome)
        | .error cause => .rejection .copyPackets order.destination cause)
  | none =>
      let cause : Rejection :=
        if (slots.table.get? order.destination).any fun store => !store.isEmpty
        then .destinationNotEmpty else .copyFailed
      (slots, .rejection .copyPackets order.destination cause)

/-- Copy the packets of a time window. -/
def copy (slots : SlotService) (order : CopyOrder) : SlotService × Emission :=
  if !slots.table.contains order.source then
    (slots, .rejection .copyPackets order.source .storeMissing)
  else if !slots.table.contains order.destination then
    (slots, .rejection .copyPackets order.destination .storeMissing)
  else match WindowKind.ofCode order.windowCode with
    | .error unknown =>
        (slots,
          ⟨[], [], [unknown],
            [.copyAborted order.source order.destination unknown]⟩)
    | .ok kind => slots.copyBetween order kind

/-- Carry out one item. -/
def perform (slots : SlotService) : Item → SlotService × Emission
  | .act id action => slots.act id action
  | .create definition => slots.create definition
  | .delete id => slots.delete id
  | .copy order => slots.copy order

/-- Carry out items in turn. -/
def performEach (slots : SlotService) : List Item → SlotService × Emission
  | [] => (slots, .silent)
  | item :: rest =>
      let (next, first) := slots.perform item
      let (final, others) := next.performEach rest
      (final, first ++ others)

/-- Carry out a telecommand. -/
def execute (slots : SlotService) (request : Request) : SlotService × Emission :=
  let (final, performed) := slots.performEach (request.itemsOn slots.table.targets)
  (final,
    .ofNotices [.executing request.messageType] ++ performed ++
      slots.table.reporting request)

/-- Carry out an operation; also answers what is seen of it. -/
def operate (slots : SlotService) : Operation → SlotService × Answer
  | .execute request =>
      ((slots.execute request).1, .emitted (slots.execute request).2)
  | .report serviceType data =>
      ((slots.storeReport serviceType data).1,
        .filed (slots.storeReport serviceType data).2.1)
  | .setClock tag => ({ slots with clock := slots.clock.set tag }, .done)
  | .advanceClock duration =>
      ({ slots with clock := slots.clock.advance duration }, .done)
  | .route serviceType store =>
      match slots.router.route serviceType store with
      | .ok (router, previous) => ({ slots with router := router }, .routed (.ok previous))
      | .error fault => (slots, .routed (.error fault))
  | .unroute serviceType =>
      ({ slots with router := (slots.router.unroute serviceType).1 },
        .unrouted (slots.router.unroute serviceType).2)
  | .clearRoutes => ({ slots with router := .empty }, .done)
  | .reset => (slots.reset.1, .done)
  | .restore snapshot =>
      match slots.restore snapshot with
      | .ok (restored, _) => (restored, .restored none)
      | .error fault => (slots, .restored (some fault))

/-- Carry out operations in turn; also answers what is seen of each. -/
def run (slots : SlotService) : List Operation → SlotService × List Answer
  | [] => (slots, [])
  | operation :: rest =>
      (((slots.operate operation).1.run rest).1,
        (slots.operate operation).2 :: ((slots.operate operation).1.run rest).2)

/-! ## What a service over slots stands for -/

/-- The service that keeps the same stores in a registry. -/
def service (slots : SlotService) : Service :=
  ⟨slots.config, slots.table.registry, slots.router, slots.clock⟩

/-- An outcome, with the service that the one over slots stands for. -/
def withRegistry {α : Type} (outcome : SlotService × α) : Service × α :=
  (outcome.1.service, outcome.2)

@[simp]
theorem service_config (slots : SlotService) : slots.service.config = slots.config :=
  rfl

@[simp]
theorem service_registry (slots : SlotService) :
    slots.service.registry = slots.table.registry :=
  rfl

@[simp]
theorem service_router (slots : SlotService) : slots.service.router = slots.router :=
  rfl

@[simp]
theorem service_clock (slots : SlotService) : slots.service.clock = slots.clock :=
  rfl

theorem get?_service (slots : SlotService) (id : StoreId) :
    slots.service.registry.get? id = slots.table.get? id :=
  slots.table.get?_registry id

theorem service_modify (slots : SlotService) (id : StoreId)
    (change : PacketStore → PacketStore) :
    ({ slots with table := slots.table.modify id change } : SlotService).service =
      { slots.service with registry := slots.service.registry.modify id change } :=
  congrArg (Service.mk slots.config · slots.router slots.clock)
    (slots.table.registry_modify id change)

/-! ### Items -/

theorem withRegistry_act (slots : SlotService) (id : StoreId) (action : Action) :
    withRegistry (slots.act id action) = slots.service.act id action := by
  unfold act Service.act
  rw [get?_service]
  cases slots.table.get? id with
  | none => rfl
  | some store =>
      simp only [service_config]
      cases action.obstacle? slots.config store with
      | some cause => rfl
      | none =>
          apply Prod.ext
          · exact slots.service_modify id _
          · rfl

theorem creationObstacle?_eq (slots : SlotService) (definition : StoreDefinition) :
    slots.creationObstacle? definition = slots.service.creationObstacle? definition := by
  unfold creationObstacle? Service.creationObstacle?
  rw [SlotTable.contains_eq, SlotTable.isFull_eq]
  rfl

theorem withRegistry_create (slots : SlotService) (definition : StoreDefinition) :
    withRegistry (slots.create definition) = slots.service.create definition := by
  unfold create Service.create
  rw [← creationObstacle?_eq]
  cases slots.creationObstacle? definition with
  | some cause => rfl
  | none =>
      have created := slots.table.map_registry_create definition.id
        (PacketStore.create definition.size definition.kind definition.virtualChannel)
      simp only [service_registry, ← created]
      cases slots.table.create definition.id _ with
      | error cause => rfl
      | ok table => rfl

theorem deletionObstacle?_eq (slots : SlotService) (id : StoreId) :
    slots.deletionObstacle? id = slots.service.deletionObstacle? id := by
  unfold deletionObstacle? Service.deletionObstacle?
  rw [get?_service]
  rfl

theorem withRegistry_delete (slots : SlotService) (id : StoreId) :
    withRegistry (slots.delete id) = slots.service.delete id := by
  unfold delete Service.delete
  rw [← deletionObstacle?_eq]
  cases slots.deletionObstacle? id with
  | some cause => cases cause <;> rfl
  | none =>
      apply Prod.ext
      · exact congrArg (Service.mk slots.config · slots.router slots.clock)
          (slots.table.registry_remove id)
      · rfl

theorem withRegistry_copyBetween (slots : SlotService) (order : CopyOrder)
    (kind : WindowKind) :
    withRegistry (slots.copyBetween order kind) = slots.service.copyBetween order kind := by
  unfold copyBetween Service.copyBetween
  rw [get?_service, service_registry, ← SlotTable.sourceAndDestination?_eq]
  cases slots.table.sourceAndDestination? order.source order.destination with
  | none => rfl
  | some stores =>
      apply Prod.ext
      · exact slots.service_modify order.destination _
      · rfl

theorem withRegistry_copy (slots : SlotService) (order : CopyOrder) :
    withRegistry (slots.copy order) = slots.service.copy order := by
  unfold copy Service.copy
  rw [service_registry, ← SlotTable.contains_eq]
  split
  · rfl
  split
  · rfl
  cases WindowKind.ofCode order.windowCode with
  | error unknown => rfl
  | ok kind => exact slots.withRegistry_copyBetween order kind

/-- An item does to slots what it does to the registry they stand for. -/
theorem withRegistry_perform (slots : SlotService) (item : Item) :
    withRegistry (slots.perform item) = slots.service.perform item := by
  cases item with
  | act id action => exact slots.withRegistry_act id action
  | create definition => exact slots.withRegistry_create definition
  | delete id => exact slots.withRegistry_delete id
  | copy order => exact slots.withRegistry_copy order

theorem withRegistry_performEach (slots : SlotService) (items : List Item) :
    withRegistry (slots.performEach items) = slots.service.performEach items := by
  induction items generalizing slots with
  | nil => rfl
  | cons item rest ih =>
      have first := slots.withRegistry_perform item
      have others := ih (slots.perform item).1
      rw [Service.performEach_cons, ← first]
      change _ = (((slots.perform item).1.service.performEach rest).1,
        (slots.perform item).2 ++ ((slots.perform item).1.service.performEach rest).2)
      rw [← others]
      rfl

/-! ### Operations -/

theorem withRegistry_execute (slots : SlotService) (request : Request) :
    withRegistry (slots.execute request) = slots.service.execute request := by
  have performed :=
    slots.withRegistry_performEach (request.itemsOn slots.table.registry.targets)
  simp only [execute, Service.execute, Request.items, SlotTable.targets_eq,
    SlotTable.reporting_eq, service_registry, ← performed]
  rfl

theorem withRegistry_storeReport (slots : SlotService) (serviceType : UInt8)
    (data : List UInt8) :
    withRegistry (slots.storeReport serviceType data) =
      slots.service.storeReport serviceType data := by
  unfold storeReport Service.storeReport
  rw [service_router, service_clock, service_config]
  cases slots.router.destination? serviceType with
  | none => rfl
  | some id =>
      dsimp only
      rw [get?_service]
      cases slots.table.get? id with
      | none => rfl
      | some store =>
          dsimp only
          split
          · rfl
          split
          · rfl
          apply Prod.ext
          · exact slots.service_modify id _
          · rfl

/-- A service over slots starts exactly where the other one does. -/
theorem map_withRegistry_start (config : Config) (clock : Clock) :
    (start config clock).map withRegistry = Service.start config clock := by
  unfold start Service.start
  cases config.check with
  | error fault => rfl
  | ok _ =>
      cases Router.ofRoutes config.routes with
      | error fault => rfl
      | ok router => rfl

theorem snapshot_eq (slots : SlotService) : slots.snapshot = slots.service.snapshot :=
  slots.table.snapshot_eq

theorem map_withRegistry_restore (slots : SlotService) (snapshot : Snapshot) :
    (slots.restore snapshot).map withRegistry = slots.service.restore snapshot := by
  have built := SlotTable.map_registry_ofSnapshot slots.config snapshot
  unfold restore Service.restore
  rw [service_config, ← built]
  cases SlotTable.ofSnapshot slots.config snapshot with
  | error fault => rfl
  | ok table =>
      simp only [Except.map, withRegistry, SlotTable.size_eq]
      rfl

/-- An operation does to slots what it does to the registry they stand for. -/
theorem withRegistry_operate (slots : SlotService) (operation : Operation) :
    withRegistry (slots.operate operation) = slots.service.operate operation := by
  cases operation with
  | execute request =>
      rw [Service.operate, ← withRegistry_execute]
      rfl
  | report serviceType data =>
      rw [Service.operate, ← withRegistry_storeReport]
      rfl
  | restore snapshot =>
      rw [operate, Service.operate, ← map_withRegistry_restore]
      cases slots.restore snapshot with
      | error fault => rfl
      | ok restored => rfl
  | route serviceType store =>
      rw [operate, Service.operate, service_router]
      cases slots.router.route serviceType store with
      | error fault => rfl
      | ok routed => rfl
  | setClock | advanceClock | unroute | clearRoutes | reset => rfl

/-- A run over slots is the run of the service they stand for. -/
theorem withRegistry_run (slots : SlotService) (operations : List Operation) :
    withRegistry (slots.run operations) = slots.service.run operations := by
  induction operations generalizing slots with
  | nil => rfl
  | cons operation rest ih =>
      have first := slots.withRegistry_operate operation
      have others := ih (slots.operate operation).1
      rw [Service.run_cons, ← first]
      change _ = (((slots.operate operation).1.service.run rest).1,
        (slots.operate operation).2 :: ((slots.operate operation).1.service.run rest).2)
      rw [← others]
      rfl

/-- A service that starts at all also starts over slots, and runs there as it does with
a registry. -/
theorem exists_start_run {config : Config} {clock : Clock} {fresh : Service}
    {notices : List Notice} (started : Service.start config clock = .ok (fresh, notices)) :
    ∃ slots, start config clock = .ok (slots, notices) ∧
      ∀ operations, withRegistry (slots.run operations) = fresh.run operations := by
  have same := (map_withRegistry_start config clock).trans started
  rcases SlotTable.exists_of_map_eq_ok same with ⟨⟨slots, said⟩, entered, standsFor⟩
  rcases Prod.mk.inj standsFor with ⟨rfl, rfl⟩
  exact ⟨slots, entered, slots.withRegistry_run⟩

/-- Services over slots that stand for one service cannot be told apart by any run. -/
theorem run_congr {first second : SlotService} (same : first.service = second.service)
    (operations : List Operation) :
    (first.run operations).2 = (second.run operations).2 ∧
      (first.run operations).1.snapshot = (second.run operations).1.snapshot := by
  have runs : withRegistry (first.run operations) = withRegistry (second.run operations) := by
    rw [withRegistry_run, withRegistry_run, same]
  rcases Prod.mk.inj runs with ⟨state, answers⟩
  constructor
  · exact answers
  · rw [snapshot_eq, snapshot_eq, state]

end SlotService

end OnboardStorage
