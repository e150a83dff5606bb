import OnboardStorage.Proofs.Operation
import OnboardStorage.Proofs.Soundness.Snapshot
import OnboardStorage.Proofs.Start

/-!
# Every run leads to a sound service

A service is sound when it has no more stores than its configuration allows and
each of them is sound.  A fresh service is sound, and no operation makes it
unsound; so every state of every run is sound, whatever the order of
telecommands, reports, clock changes, routing changes, resets and restores.
-/

namespace OnboardStorage.Service

/-- A service whose stores are sound and not too many. -/
structure Sound (service : Service) : Prop where
  limit_eq : service.registry.limit = min service.config.maxStores.toNat Limits.stores
  size_le : service.registry.size ≤ service.registry.limit
  stores : ∀ {id : StoreId} {store : PacketStore},
    service.registry.get? id = some store → store.Sound service.config

variable {service : Service}

/-! ## One change of the registry -/

/-- Changing one store in place keeps a service sound if the changed store is. -/
theorem Sound.modify (sound : service.Sound) {id : StoreId}
    {change : PacketStore → PacketStore}
    (changed : ∀ {store : PacketStore}, service.registry.get? id = some store →
      (change store).Sound service.config) :
    Sound { service with registry := service.registry.modify id change } where
  limit_eq := sound.limit_eq
  size_le := by
    rw [Registry.size_modify]
    exact sound.size_le
  stores := by
    intro other store found
    rw [Registry.get?_modify] at found
    split at found
    · rename_i same
      subst same
      obtain ⟨before, held, rfl⟩ := Option.map_eq_some_iff.mp found
      exact changed held
    · exact sound.stores found

theorem Sound.insert (sound : service.Sound) {id : StoreId} {store : PacketStore}
    (absent : service.registry.get? id = none)
    (room : service.registry.size < service.registry.limit)
    (storeSound : store.Sound service.config) :
    Sound { service with
      registry := { service.registry with
        stores := service.registry.stores.insert id store } } where
  limit_eq := sound.limit_eq
  size_le := by
    have size_eq := OrderedMap.size_insert_of_get?_eq_none absent store
    rw [Registry.size, size_eq]
    exact room
  stores := by
    intro other held found
    rw [Registry.get?_insert] at found
    split at found
    · cases found
      exact storeSound
    · exact sound.stores found

theorem Sound.remove (sound : service.Sound) (id : StoreId) :
    Sound { service with registry := service.registry.remove id } where
  limit_eq := sound.limit_eq
  size_le := Nat.le_trans (service.registry.size_remove_le id) sound.size_le
  stores := by
    intro other store found
    rw [Registry.get?_remove] at found
    split at found
    · cases found
    · exact sound.stores found

/-! ## Items, telecommands and reports -/

theorem Sound.perform (sound : service.Sound) (item : Item) :
    (service.perform item).1.Sound := by
  have outcome := service.outcome_perform item
  generalize service.perform item = result at outcome
  cases outcome with
  | refused unclean => exact sound
  | acted found free =>
      refine sound.modify fun held => ?_
      rw [found] at held
      cases held
      exact (sound.stores found).effect free
  | created absent room channel size =>
      exact sound.insert absent room (PacketStore.sound_create size channel)
  | deleted found free unrouted => exact sound.remove _
  | copied different sourceFound destinationFound known =>
      exact sound.modify fun _ =>
        (sound.stores destinationFound).copyWindow (sound.stores sourceFound) _

/-- What differs from a service in stores only is that service with other stores. -/
theorem eq_of_frame {next : Service} (frame : next.config = service.config ∧
    next.router = service.router ∧ next.clock = service.clock) :
    next = { service with registry := next.registry } := by
  rcases frame with ⟨config_eq, router_eq, clock_eq⟩
  cases next
  cases config_eq
  cases router_eq
  cases clock_eq
  rfl

/-- Nothing done by items touches configuration, routes or clock. -/
theorem perform_frame (service : Service) (item : Item) :
    (service.perform item).1.config = service.config ∧
      (service.perform item).1.router = service.router ∧
      (service.perform item).1.clock = service.clock := by
  have outcome := service.outcome_perform item
  generalize service.perform item = result at outcome
  cases outcome <;> exact ⟨rfl, rfl, rfl⟩

theorem performEach_frame (service : Service) (items : List Item) :
    (service.performEach items).1.config = service.config ∧
      (service.performEach items).1.router = service.router ∧
      (service.performEach items).1.clock = service.clock := by
  induction items generalizing service with
  | nil => exact ⟨rfl, rfl, rfl⟩
  | cons item rest ih =>
      obtain ⟨config_eq, router_eq, clock_eq⟩ := service.perform_frame item
      obtain ⟨restConfig, restRouter, restClock⟩ := ih (service.perform item).1
      exact ⟨restConfig.trans config_eq, restRouter.trans router_eq,
        restClock.trans clock_eq⟩

theorem limit_perform (service : Service) (item : Item) :
    (service.perform item).1.registry.limit = service.registry.limit := by
  have outcome := service.outcome_perform item
  generalize service.perform item = result at outcome
  cases outcome <;> rfl

theorem limit_performEach (service : Service) (items : List Item) :
    (service.performEach items).1.registry.limit = service.registry.limit := by
  induction items generalizing service with
  | nil => rfl
  | cons item rest ih => exact (ih _).trans (service.limit_perform item)

theorem Sound.performEach (sound : service.Sound) (items : List Item) :
    (service.performEach items).1.Sound := by
  induction items generalizing service with
  | nil => exact sound
  | cons item rest ih => exact ih (sound.perform item)

theorem Sound.execute (sound : service.Sound) (request : Request) :
    (service.execute request).1.Sound :=
  sound.performEach _

theorem execute_frame (service : Service) (request : Request) :
    (service.execute request).1.config = service.config ∧
      (service.execute request).1.router = service.router ∧
      (service.execute request).1.clock = service.clock :=
  service.performEach_frame _

theorem Sound.storeReport (sound : service.Sound) (serviceType : UInt8)
    (data : List UInt8) : (service.storeReport serviceType data).1.Sound := by
  have outcome := service.outcome_storeReport serviceType data
  generalize (service.storeReport serviceType data).2.1 = answer at outcome
  generalize (service.storeReport serviceType data).1 = next at outcome
  cases outcome with
  | dropped unstored => exact sound
  | stored routed found enabled short taken =>
      exact sound.modify fun _ => (sound.stores found).of_takes taken short

theorem storeReport_frame (service : Service) (serviceType : UInt8)
    (data : List UInt8) :
    (service.storeReport serviceType data).1.config = service.config ∧
      (service.storeReport serviceType data).1.router = service.router ∧
      (service.storeReport serviceType data).1.clock = service.clock := by
  have outcome := service.outcome_storeReport serviceType data
  generalize (service.storeReport serviceType data).2.1 = answer at outcome
  generalize (service.storeReport serviceType data).1 = next at outcome ⊢
  cases outcome <;> exact ⟨rfl, rfl, rfl⟩

theorem limit_storeReport (service : Service) (serviceType : UInt8) (data : List UInt8) :
    (service.storeReport serviceType data).1.registry.limit = service.registry.limit := by
  have outcome := service.outcome_storeReport serviceType data
  generalize (service.storeReport serviceType data).2.1 = answer at outcome
  generalize (service.storeReport serviceType data).1 = next at outcome ⊢
  cases outcome <;> rfl

/-! ## Operations and runs -/

theorem sound_of_start_eq_ok {config : Config} {clock : Clock} {fresh : Service}
    {notices : List Notice} (started : start config clock = .ok (fresh, notices)) :
    fresh.Sound := by
  obtain ⟨-, config_eq, -, registry_eq⟩ := eq_of_start_eq_ok started
  exact {
    limit_eq := by
      rw [registry_eq, config_eq]
      rfl
    size_le := by
      rw [registry_eq]
      exact Nat.zero_le _
    stores := by
      intro id store found
      rw [registry_eq] at found
      cases found }

/-- A restored registry makes the service sound, whatever it held before. -/
theorem sound_of_toRegistry_eq_ok {snapshot : Snapshot} {registry : Registry}
    (restored : snapshot.toRegistry service.config = .ok registry) :
    Sound { service with registry := registry } := by
  obtain ⟨few, distinct, storesSound, rfl⟩ := Snapshot.toRegistry_eq_ok_iff.mp restored
  refine {
    limit_eq := rfl
    size_le := ?_
    stores := ?_ }
  · have bounded := (OrderedMap.empty : OrderedMap StoreId PacketStore).size_insertAll_le
      snapshot.entries
    have emptySize : (OrderedMap.empty : OrderedMap StoreId PacketStore).size = 0 := rfl
    simp only [Registry.size]
    omega
  · intro id store found
    simp only [Registry.get?] at found
    rw [OrderedMap.get?_insertAll distinct, OrderedMap.get?_empty, Option.or_none,
      lookup_eq_some_iff_of_nodup distinct] at found
    exact storesSound _ found

/-- No operation changes the configuration. -/
theorem config_operate (service : Service) (operation : Operation) :
    (service.operate operation).1.config = service.config := by
  cases operation with
  | execute request => exact (service.execute_frame request).1
  | report serviceType data => exact (service.storeReport_frame serviceType data).1
  | route serviceType store =>
      simp only [operate]
      split <;> rfl
  | restore snapshot =>
      simp only [operate, restore]
      cases snapshot.toRegistry service.config <;> rfl
  | setClock tag => rfl
  | advanceClock duration => rfl
  | unroute serviceType => rfl
  | clearRoutes => rfl
  | reset => rfl

/-- Every operation, accepted or not, keeps a service sound. -/
theorem Sound.operate (sound : service.Sound) (operation : Operation) :
    (service.operate operation).1.Sound := by
  cases operation with
  | execute request => exact sound.execute request
  | report serviceType data => exact sound.storeReport serviceType data
  | setClock tag => exact { sound with }
  | advanceClock duration => exact { sound with }
  | route serviceType store =>
      simp only [Service.operate]
      split
      · exact { sound with }
      · exact sound
  | unroute serviceType => exact { sound with }
  | clearRoutes => exact { sound with }
  | reset =>
      exact {
        limit_eq := sound.limit_eq
        size_le := Nat.zero_le _
        stores := fun found => nomatch found }
  | restore snapshot =>
      simp only [Service.operate, restore]
      cases restored : snapshot.toRegistry service.config with
      | error fault => exact sound
      | ok registry => exact sound_of_toRegistry_eq_ok restored

theorem config_run (service : Service) (operations : List Operation) :
    (service.run operations).1.config = service.config := by
  induction operations generalizing service with
  | nil => rfl
  | cons operation rest ih => exact (ih _).trans (service.config_operate operation)

theorem Sound.run (sound : service.Sound) (operations : List Operation) :
    (service.run operations).1.Sound := by
  induction operations generalizing service with
  | nil => exact sound
  | cons operation rest ih => exact ih (sound.operate operation)

/-- A checked configuration starts a service, and every state of every run of
it respects the limits: no more stores than configured, under distinct
identifiers, each with acceptable settings and a content that is in time order,
of acceptable messages, correctly counted and within its capacity. -/
theorem every_run_is_sound {config : Config} (valid : config.check = .ok ())
    (clock : Clock) :
    ∃ fresh notices, start config clock = .ok (fresh, notices) ∧
      ∀ operations : List Operation,
        (fresh.run operations).1.registry.size ≤ config.maxStores.toNat ∧
        (fresh.run operations).1.registry.ids.Nodup ∧
        ∀ id store, (fresh.run operations).1.registry.get? id = some store →
          store.Sound config ∧
          store.storedBytes = Packet.totalSize store.packets ∧
          store.storedBytes ≤ store.capacity.toNat := by
  obtain ⟨router, started⟩ := exists_start_eq_ok valid clock
  refine ⟨_, _, started, fun operations => ?_⟩
  have config_eq : (run ⟨config, Registry.empty config.maxStores.toNat, router, clock⟩
      operations).1.config = config := config_run _ operations
  have sound := (sound_of_start_eq_ok started).run operations
  generalize (run _ operations).1 = reached at config_eq sound ⊢
  refine ⟨?_, reached.registry.ids_nodup, ?_⟩
  · have limit_eq := sound.limit_eq
    have size_le := sound.size_le
    rw [config_eq] at limit_eq
    omega
  · intro id store found
    have storeSound := sound.stores found
    rw [config_eq] at storeSound
    exact ⟨storeSound, store.storedBytes_eq, store.storedBytes_eq ▸ storeSound.fits⟩

/-- The standard configuration is one that is checked. -/
theorem standard_run_is_sound :
    Config.standard.check = .ok () ∧
    ∃ fresh notices, start Config.standard ⟨7⟩ = .ok (fresh, notices) ∧
      ∀ operations : List Operation,
        (fresh.run operations).1.registry.size ≤ 4 ∧
        (fresh.run operations).1.registry.ids.Nodup ∧
        ∀ id store, (fresh.run operations).1.registry.get? id = some store →
          store.Sound Config.standard ∧
          store.storedBytes = Packet.totalSize store.packets ∧
          store.storedBytes ≤ store.capacity.toNat :=
  ⟨rfl, every_run_is_sound rfl ⟨7⟩⟩

end OnboardStorage.Service
