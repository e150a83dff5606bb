import OnboardStorage.Service.Execution
import OnboardStorage.Proofs.PacketStore.Admission

/-!
# What an item or a report can come to

An item of a telecommand comes to one of five things, and a telemetry report to
one of two.  `Service.outcome_perform` and `Service.outcome_storeReport` say so
once, with everything that has been checked on the way; what holds along runs
is shown by cases over them.
-/

namespace OnboardStorage

/-- Whether no item was rejected and no internal error arose. -/
def Emission.isClean (emission : Emission) : Bool :=
  emission.failures.isEmpty && emission.internalErrors.isEmpty

@[simp]
theorem Emission.isClean_ofNotices (notices : List Notice) :
    (Emission.ofNotices notices).isClean = true :=
  rfl

@[simp]
theorem Emission.isClean_rejection (request : MessageType) (store : StoreId)
    (cause : Rejection) : (Emission.rejection request store cause).isClean = false :=
  rfl

namespace Service

/-- What carrying out an item comes to. -/
inductive ItemOutcome (service : Service) : Item → Service × Emission → Prop
  /-- The item is turned down, and the service stays as it was. -/
  | refused {item : Item} {emission : Emission} (unclean : emission.isClean = false) :
      ItemOutcome service item (service, emission)
  | acted {id : StoreId} {action : Action} {store : PacketStore}
      (found : service.registry.get? id = some store)
      (free : action.obstacle? service.config store = none) :
      ItemOutcome service (.act id action)
        ({ service with
            registry := service.registry.modify id
              fun store => action.effect service.config store },
          .ofNotices (action.notices id store))
  | created {definition : StoreDefinition}
      (absent : service.registry.get? definition.id = none)
      (room : service.registry.size < service.registry.limit)
      (channel :
        service.config.virtualChannels.contains definition.virtualChannel = true)
      (size : service.config.acceptsStoreSize definition.size = true) :
      ItemOutcome service (.create definition)
        ({ service with
            registry := { service.registry with
              stores := service.registry.stores.insert definition.id
                (PacketStore.create definition.size definition.kind
                  definition.virtualChannel) } },
          .ofNotices [.created definition])
  | deleted {id : StoreId} {store : PacketStore}
      (found : service.registry.get? id = some store)
      (free : store.blocker? service.config.capabilities .delete = none)
      (unrouted : service.router.isRouted id = false) :
      ItemOutcome service (.delete id)
        ({ service with registry := service.registry.remove id },
          .ofNotices [.deleted id])
  /-- The copy is begun; it may still break off at a damaged packet. -/
  | copied {order : CopyOrder} {kind : WindowKind} {source destination : PacketStore}
      (different : order.source ≠ order.destination)
      (sourceFound : service.registry.get? order.source = some source)
      (destinationFound : service.registry.get? order.destination = some destination)
      (known : WindowKind.ofCode order.windowCode = .ok kind) :
      ItemOutcome service (.copy order)
        ({ service with
            registry := service.registry.modify order.destination fun _ =>
              (source.copyWindow destination
                (Window.ofKind kind order.start order.stop)).1 },
          match (source.copyWindow destination
              (Window.ofKind kind order.start order.stop)).2 with
          | .ok outcome => .ofNotices (copyNotices order kind outcome)
          | .error cause => .rejection .copyPackets order.destination cause)

theorem outcome_act (service : Service) (id : StoreId) (action : Action) :
    service.ItemOutcome (.act id action) (service.act id action) := by
  unfold act
  cases found : service.registry.get? id with
  | none => exact .refused rfl
  | some store =>
      cases free : action.obstacle? service.config store with
      | some cause => simpa [free] using ItemOutcome.refused rfl
      | none => simpa [free] using ItemOutcome.acted found free

theorem creationObstacle?_eq_none_iff {service : Service}
    {definition : StoreDefinition} :
    service.creationObstacle? definition = none ↔
      service.registry.get? definition.id = none ∧
      service.registry.size < service.registry.limit ∧
      service.config.virtualChannels.contains definition.virtualChannel = true ∧
      service.config.acceptsStoreSize definition.size = true := by
  unfold creationObstacle? Registry.contains Registry.isFull
  simp [refusing_eq_none_iff]

/-- A creation that nothing stands against is carried out. -/
theorem create_eq_of_free {service : Service} {definition : StoreDefinition}
    (free : service.creationObstacle? definition = none) :
    service.create definition =
      ({ service with
          registry := { service.registry with
            stores := service.registry.stores.insert definition.id
              (PacketStore.create definition.size definition.kind
                definition.virtualChannel) } },
        .ofNotices [.created definition]) := by
  obtain ⟨absent, room, -⟩ := creationObstacle?_eq_none_iff.mp free
  have created : service.registry.create definition.id
      (PacketStore.create definition.size definition.kind
        definition.virtualChannel) = .ok _ :=
    Registry.create_eq_ok_iff.mpr ⟨absent, room, rfl⟩
  simp only [create, free, created]

theorem outcome_create (service : Service) (definition : StoreDefinition) :
    service.ItemOutcome (.create definition) (service.create definition) := by
  cases free : service.creationObstacle? definition with
  | some cause =>
      simp only [create, free]
      exact .refused rfl
  | none =>
      obtain ⟨absent, room, channel, size⟩ := creationObstacle?_eq_none_iff.mp free
      rw [create_eq_of_free free]
      exact .created absent room channel size

theorem deletionObstacle?_eq_none_iff {service : Service} {id : StoreId} :
    service.deletionObstacle? id = none ↔
      ∃ store, service.registry.get? id = some store ∧
        store.blocker? service.config.capabilities .delete = none ∧
        service.router.isRouted id = false := by
  unfold deletionObstacle?
  cases service.registry.get? id with
  | none => simp
  | some store =>
      cases store.blocker? service.config.capabilities .delete <;> simp

theorem outcome_delete (service : Service) (id : StoreId) :
    service.ItemOutcome (.delete id) (service.delete id) := by
  unfold delete
  split
  · exact .refused rfl
  · exact .refused rfl
  · rename_i free
    obtain ⟨store, found, free, unrouted⟩ := deletionObstacle?_eq_none_iff.mp free
    exact .deleted found free unrouted

theorem outcome_copy (service : Service) (order : CopyOrder) :
    service.ItemOutcome (.copy order) (service.copy order) := by
  unfold copy
  split
  · exact .refused rfl
  split
  · exact .refused rfl
  split
  · exact .refused rfl
  rename_i kind known
  unfold copyBetween
  split
  · rename_i source destination ends
    rcases Registry.sourceAndDestination?_eq_some_iff.mp ends with
      ⟨different, sourceFound, destinationFound⟩
    exact .copied different sourceFound destinationFound known
  · exact .refused rfl

/-- An item comes to one of the listed outcomes. -/
theorem outcome_perform (service : Service) (item : Item) :
    service.ItemOutcome item (service.perform item) := by
  cases item with
  | act id action => exact service.outcome_act id action
  | create definition => exact service.outcome_create definition
  | delete id => exact service.outcome_delete id
  | copy order => exact service.outcome_copy order

/-- What a telemetry report comes to. -/
inductive ReportOutcome (service : Service) (serviceType : UInt8) (data : List UInt8) :
    Service × Except Refusal Insertion → Prop
  /-- The report is dropped or refused, and the service stays as it was. -/
  | dropped {result : Except Refusal Insertion}
      (unstored : ∀ evicted, result ≠ .ok (.stored evicted)) :
      ReportOutcome service serviceType data (service, result)
  | stored {id : StoreId} {store grown : PacketStore} {evicted : Nat}
      (routed : service.router.destination? serviceType = some id)
      (found : service.registry.get? id = some store)
      (enabled : store.storageEnabled = true)
      (short : data.length ≤ service.config.maxMessageBytes.toNat)
      (taken : store.Takes ⟨service.clock.reading, data⟩ grown evicted) :
      ReportOutcome service serviceType data
        ({ service with registry := service.registry.modify id fun _ => grown },
          .ok (.stored evicted))

/-- A report comes to one of the listed outcomes. -/
theorem outcome_storeReport (service : Service) (serviceType : UInt8)
    (data : List UInt8) :
    service.ReportOutcome serviceType data
      ((service.storeReport serviceType data).1,
        (service.storeReport serviceType data).2.1) := by
  unfold storeReport
  cases routed : service.router.destination? serviceType with
  | none => exact .dropped (by simp)
  | some id =>
      cases found : service.registry.get? id with
      | none => simpa [found] using ReportOutcome.dropped (by simp)
      | some store =>
          cases enabled : store.storageEnabled with
          | false => simpa [found, enabled] using ReportOutcome.dropped (by simp)
          | true =>
              by_cases long : service.config.maxMessageBytes.toNat < data.length
              · simpa [found, enabled, long] using ReportOutcome.dropped (by simp)
              rcases accepted : store.accept ⟨service.clock.reading, data⟩ with
                ⟨next, refusal | evicted⟩
              · have unchanged := (PacketStore.accept_eq_error_iff.mp accepted).1
                subst unchanged
                have putBack := Registry.modify_const_eq_self found
                simpa [found, enabled, long, PacketStore.file, accepted, putBack,
                  Except.map] using ReportOutcome.dropped (by simp)
              · simpa [found, enabled, long, PacketStore.file, accepted, Except.map] using
                  ReportOutcome.stored routed found enabled (Nat.not_lt.mp long)
                    (PacketStore.takes_of_accept_eq_ok accepted)

end Service

end OnboardStorage
