import OnboardStorage.Proofs.Operation
import OnboardStorage.Proofs.Verdict.Decisions
import Mathlib.Data.List.Infix

/-!
# A routed store stays

A store that telemetry is routed to is not taken away by any telecommand.  Only a
deletion removes a store, and it looks through the whole routing table first; that
this search and the look-up of a report agree is what keeps reports from meeting a
missing store.

Nothing is assumed about the state a run begins with, except that the store is there.
Resets and restores are left out: they replace all stores and look at no route.
-/

namespace OnboardStorage

theorem Registry.contains_modify (registry : Registry) (id other : StoreId)
    (change : PacketStore → PacketStore) :
    (registry.modify id change).contains other = registry.contains other := by
  rw [contains, get?_modify, contains]
  split
  · rw [Option.isSome_map]
  · rfl

namespace Service

variable {service : Service} {id : StoreId}

/-- Some service type is routed to the store named `id`. -/
def RoutesTo (service : Service) (id : StoreId) : Prop :=
  ∃ serviceType, service.router.destination? serviceType = some id

/-! ## One step -/

/-- No item takes away a store that is routed to. -/
theorem RoutesTo.contains_perform (routed : service.RoutesTo id)
    (present : service.registry.contains id = true) (item : Item) :
    (service.perform item).1.registry.contains id = true := by
  have outcome := service.outcome_perform item
  generalize service.perform item = result at outcome
  cases outcome with
  | refused unclean => exact present
  | acted found free =>
      rw [Registry.contains_modify]
      exact present
  | created absent room channel size =>
      rw [Registry.contains, Registry.get?_insert]
      split
      · rfl
      · exact present
  | @deleted target store found free unrouted =>
      have different : target ≠ id := by
        rintro rfl
        rw [Router.isRouted_iff.mpr routed] at unrouted
        cases unrouted
      rw [Registry.contains, Registry.get?_remove, if_neg different]
      exact present
  | copied different sourceFound destinationFound known =>
      rw [Registry.contains_modify]
      exact present

theorem RoutesTo.contains_performEach (routed : service.RoutesTo id)
    (present : service.registry.contains id = true) (items : List Item) :
    (service.performEach items).1.registry.contains id = true := by
  induction items generalizing service with
  | nil => exact present
  | cons item rest ih =>
      have router_eq := (service.perform_frame item).2.1
      have stillRouted : (service.perform item).1.RoutesTo id := by
        rw [RoutesTo, router_eq]
        exact routed
      exact ih stillRouted (routed.contains_perform present item)

/-- A report changes at most the content of a store. -/
theorem contains_storeReport (service : Service) (serviceType : UInt8)
    (data : List UInt8) (id : StoreId) :
    (service.storeReport serviceType data).1.registry.contains id =
      service.registry.contains id := by
  have outcome := service.outcome_storeReport serviceType data
  generalize (service.storeReport serviceType data).2.1 = answer at outcome
  generalize (service.storeReport serviceType data).1 = next at outcome ⊢
  cases outcome with
  | dropped unstored => rfl
  | stored routed found enabled short taken => exact Registry.contains_modify _ _ _ _

/-- Only operations that replace all stores take away a store that is routed to. -/
theorem RoutesTo.contains_operate (routed : service.RoutesTo id)
    (present : service.registry.contains id = true) {operation : Operation}
    (lasting : operation.replacesStores = false) :
    (service.operate operation).1.registry.contains id = true := by
  cases operation with
  | execute request => exact routed.contains_performEach present _
  | report serviceType data =>
      rw [operate, contains_storeReport]
      exact present
  | setClock tag => exact present
  | advanceClock duration => exact present
  | route serviceType store =>
      simp only [operate]
      split <;> exact present
  | unroute serviceType => exact present
  | clearRoutes => exact present
  | reset => cases lasting
  | restore snapshot => cases lasting

/-! ## Runs -/

/-- A store outlasts every run in which it is routed to before each operation. -/
theorem contains_run {operations : List Operation}
    (present : service.registry.contains id = true)
    (lasting : ∀ operation ∈ operations, operation.replacesStores = false)
    (routed : ∀ earlier, earlier <+: operations → (service.run earlier).1.RoutesTo id) :
    (service.run operations).1.registry.contains id = true := by
  induction operations generalizing service with
  | nil => exact present
  | cons operation rest ih =>
      rcases List.forall_mem_cons.mp lasting with ⟨first, others⟩
      apply ih
      · exact RoutesTo.contains_operate (routed [] List.nil_prefix) present first
      · exact others
      · intro earlier begins
        exact routed (operation :: earlier) (List.cons_prefix_cons.mpr ⟨rfl, begins⟩)

/-! ## Reports -/

/-- No store refuses a packet on the ground that there is no store. -/
theorem file_ne_unknownStore (store : PacketStore) (packet : Packet) :
    (store.file packet).2 ≠ .error .unknownStore := by
  have known : store.refusal? packet ≠ some .unknownStore := by
    unfold PacketStore.refusal?
    grind
  unfold PacketStore.file
  split
  · rcases accepted : store.accept packet with ⟨next, refusal | evicted⟩
    · intro unknown
      cases unknown
      exact known (PacketStore.accept_eq_error_iff.mp accepted).2
    · exact nofun
  · exact nofun

/-- A report meets a missing store exactly when the one it is routed to is not there. -/
theorem storeReport_eq_unknownStore_iff {serviceType : UInt8} {data : List UInt8} :
    (service.storeReport serviceType data).2.1 = .error .unknownStore ↔
      ∃ id, service.router.destination? serviceType = some id ∧
        service.registry.contains id = false := by
  unfold storeReport Registry.contains
  cases service.router.destination? serviceType with
  | none => simp
  | some id =>
      cases found : service.registry.get? id with
      | none => simp [found]
      | some store =>
          have known := file_ne_unknownStore store ⟨service.clock.reading, data⟩
          apply iff_of_false
          · simp only [found]
            split
            · simp
            split
            · simp
            exact known
          · simp [found]

/-! ## Runs in which the route is kept -/

/-- A store that is there, and to which some service type is routed in every state of a
run of telecommands, reports, clock changes and routing changes, is there in every
state of that run; so no report that is routed to it meets a missing store. -/
theorem routed_store_stays (service : Service) (id : StoreId)
    (present : service.registry.contains id = true) (operations : List Operation)
    (lasting : ∀ operation ∈ operations, operation.replacesStores = false)
    (routed : ∀ earlier, earlier <+: operations → (service.run earlier).1.RoutesTo id) :
    ∀ earlier, earlier <+: operations →
      (service.run earlier).1.registry.contains id = true ∧
      ∀ serviceType data,
        (service.run earlier).1.router.destination? serviceType = some id →
          ((service.run earlier).1.storeReport serviceType data).2.1 ≠
            .error .unknownStore := by
  intro earlier begins
  have stays : (service.run earlier).1.registry.contains id = true := by
    apply contains_run present
    · intro operation member
      exact lasting operation (begins.subset member)
    · intro start starts
      exact routed start (starts.trans begins)
  constructor
  · exact stays
  · intro serviceType data destination unknown
    rcases storeReport_eq_unknownStore_iff.mp unknown with ⟨other, otherRouted, missing⟩
    cases destination.symm.trans otherRouted
    cases stays.symm.trans missing

/-- While a store passes from one service type to another it is asked to be deleted,
by name and with all stores, and a report for it still finds it. -/
theorem store_stays_while_its_routes_change :
    let id : StoreId := ⟨"log", by decide, by decide⟩
    let service : Service :=
      ⟨Config.standard, ⟨4, OrderedMap.empty.insert id (PacketStore.create 100 .circular 1)⟩,
        ⟨OrderedMap.empty.insert 3 id⟩, ⟨7⟩⟩
    let operations : List Operation :=
      [.execute (.deleteStores []), .route 5 id, .unroute 3,
        .execute (.deleteStores [id, id]), .execute (.enableStorage [])]
    (service.run operations).1.registry.contains id = true ∧
      ((service.run operations).1.storeReport 5 [1]).2.1 ≠ .error .unknownStore := by
  intro id service operations
  have routed : ∀ earlier ∈ operations.inits,
      (service.run earlier).1.router.isRouted id = true := by
    decide +kernel
  have stays := routed_store_stays service id rfl operations (by decide)
    (fun earlier begins => Router.isRouted_iff.mp
      (routed earlier ((List.mem_inits _ _).mpr begins))) operations (List.prefix_refl _)
  constructor
  · exact stays.1
  · exact stays.2 5 [1] (by decide +kernel)

end Service

end OnboardStorage
