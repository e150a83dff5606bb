import OnboardStorage.Proofs.PacketStore.Copy
import OnboardStorage.Proofs.Soundness.Run
import OnboardStorage.Proofs.StoreOrigin

/-!
# Retrievals that exclude each other

On a platform without concurrent retrieval, open retrieval does not run on a
store while a by-time-range retrieval is outstanding on it.  The two are begun
by different telecommands, and each of these looks at the other job; no other
change of a store begins either of them.

A restore is the one operation that looks at neither: it takes both jobs from
the snapshot as they are listed.  The stores it brings in respect the rule
exactly when the listed ones do, and from there on a run keeps it.
-/

namespace OnboardStorage

namespace PacketStore

/-- Open retrieval does not run beside an outstanding by-time-range retrieval. -/
def Exclusive (store : PacketStore) : Prop :=
  ¬ (store.openRetrieval = .inProgress ∧ store.timeRangeActive = true)

instance (store : PacketStore) : Decidable store.Exclusive :=
  inferInstanceAs (Decidable (¬ _))

variable {config : Config} {store : PacketStore}

theorem exclusive_create (capacity : UInt32) (kind : StoreKind) (channel : UInt8) :
    (create capacity kind channel).Exclusive := by
  rintro ⟨running, -⟩
  cases running

/-- A change of the content leaves the jobs of a store as they are. -/
theorem Exclusive.of_settings (exclusive : store.Exclusive) {changed : PacketStore}
    (settings : changed = { store with content := changed.content }) :
    changed.Exclusive := by
  have open_eq : changed.openRetrieval = store.openRetrieval := by rw [settings]
  have range_eq : changed.timeRangeRetrieval = store.timeRangeRetrieval := by rw [settings]
  rintro ⟨running, outstanding⟩
  rw [timeRangeActive, range_eq] at outstanding
  exact exclusive ⟨open_eq ▸ running, outstanding⟩

/-- Without concurrent retrieval, an action that nothing stands against does not
begin one retrieval beside the other. -/
theorem Exclusive.effect (single : config.capabilities.concurrentRetrieval = false)
    (exclusive : store.Exclusive) {action : Action}
    (free : action.obstacle? config store = none) :
    (action.effect config store).Exclusive := by
  cases action with
  | startTimeRange range priority =>
      have unblocked := (Option.or_eq_none_iff.mp free).1
      have notRunning := (refusing_eq_none_iff.mp unblocked).1
      rintro ⟨running, -⟩
      apply notRunning
      constructor
      · exact running
      · simp [single]
  | resumeOpen priority =>
      have notOutstanding := (refusing_eq_none_iff.mp free).1
      rintro ⟨-, outstanding⟩
      apply notOutstanding
      constructor
      · exact outstanding
      · simp [single]
  | suspendOpen =>
      rintro ⟨running, -⟩
      cases running
  | abortTimeRange =>
      rintro ⟨-, outstanding⟩
      cases outstanding
  | deleteContent limit => exact exclusive.of_settings rfl
  | resize size => exact exclusive
  | setStorage enabled => exact exclusive
  | moveOpenStart start => exact exclusive
  | changeKind kind => exact exclusive
  | changeChannel channel => exact exclusive

end PacketStore

/-- The stores of a restored registry exclude their retrievals exactly when
those listed in the snapshot do. -/
theorem Snapshot.exclusive_iff_of_toRegistry_eq_ok {config : Config} {snapshot : Snapshot}
    {registry : Registry} (restored : snapshot.toRegistry config = .ok registry) :
    (∀ id store, registry.get? id = some store → store.Exclusive) ↔
      ∀ entry ∈ snapshot.entries, entry.2.Exclusive := by
  constructor
  · rintro exclusive ⟨id, store⟩ listed
    exact exclusive id store ((get?_eq_some_iff_of_toRegistry_eq_ok restored).mpr listed)
  · intro exclusive id store found
    exact exclusive _ ((get?_eq_some_iff_of_toRegistry_eq_ok restored).mp found)

/-- Every operation qualifies, but a restore only with stores that exclude their
retrievals. -/
def Operation.BringsExclusive : Operation → Prop
  | .restore snapshot => ∀ entry ∈ snapshot.entries, entry.2.Exclusive
  | _ => True

namespace Service

/-- The retrievals of every store exclude each other. -/
def Exclusive (service : Service) : Prop :=
  ∀ id store, service.registry.get? id = some store → store.Exclusive

variable {service : Service}

theorem Exclusive.of_origin (single : service.config.capabilities.concurrentRetrieval = false)
    (exclusive : service.Exclusive) {id : StoreId} {store : PacketStore}
    (origin : service.StoreOrigin id store) : store.Exclusive := by
  cases origin with
  | kept found => exact exclusive id store found
  | acted found free => exact (exclusive id _ found).effect single free
  | created size valid => exact PacketStore.exclusive_create _ _ _
  | copied window sourceFound destinationFound =>
      exact (exclusive id _ destinationFound).of_settings
        (PacketStore.copyWindow_settings _ _ window)
  | filed found short taken => exact (exclusive id _ found).of_settings taken.settings

theorem Exclusive.perform (single : service.config.capabilities.concurrentRetrieval = false)
    (exclusive : service.Exclusive) (item : Item) : (service.perform item).1.Exclusive :=
  fun _ _ found => exclusive.of_origin single (origin_perform found)

theorem Exclusive.performEach
    (single : service.config.capabilities.concurrentRetrieval = false)
    (exclusive : service.Exclusive) (items : List Item) :
    (service.performEach items).1.Exclusive := by
  induction items generalizing service with
  | nil => exact exclusive
  | cons item rest ih =>
      have nextSingle : (service.perform item).1.config.capabilities.concurrentRetrieval =
          false := by
        rw [(service.perform_frame item).1]
        exact single
      exact ih nextSingle (exclusive.perform single item)

/-- No operation begins one retrieval of a store beside the other. -/
theorem Exclusive.operate (single : service.config.capabilities.concurrentRetrieval = false)
    (exclusive : service.Exclusive) {operation : Operation}
    (brings : operation.BringsExclusive) : (service.operate operation).1.Exclusive := by
  cases operation with
  | execute request => exact exclusive.performEach single _
  | report serviceType data =>
      intro id store found
      exact exclusive.of_origin single (origin_storeReport found)
  | setClock tag => exact exclusive
  | advanceClock duration => exact exclusive
  | route serviceType store =>
      simp only [Service.operate]
      split <;> exact exclusive
  | unroute serviceType => exact exclusive
  | clearRoutes => exact exclusive
  | reset =>
      intro id store found
      cases found
  | restore snapshot =>
      simp only [Service.operate, Service.restore]
      cases restored : snapshot.toRegistry service.config with
      | error fault => exact exclusive
      | ok registry => exact (Snapshot.exclusive_iff_of_toRegistry_eq_ok restored).mpr brings

theorem Exclusive.run (single : service.config.capabilities.concurrentRetrieval = false)
    (exclusive : service.Exclusive) {operations : List Operation}
    (brings : ∀ operation ∈ operations, operation.BringsExclusive) :
    (service.run operations).1.Exclusive := by
  induction operations generalizing service with
  | nil => exact exclusive
  | cons operation rest ih =>
      rcases List.forall_mem_cons.mp brings with ⟨first, others⟩
      have nextSingle : (service.operate operation).1.config.capabilities.concurrentRetrieval =
          false := by
        rw [service.config_operate operation]
        exact single
      exact ih nextSingle (exclusive.operate single first) others

/-- Under every configuration, the stores that an accepted restore brings in exclude
their retrievals exactly when those listed in the snapshot do: both jobs of a store
are taken over as they stand there. -/
theorem restored_stores_exclude_iff_listed (service restored : Service)
    (snapshot : Snapshot) (notices : List Notice)
    (accepted : service.restore snapshot = .ok (restored, notices)) :
    (∀ id store, restored.registry.get? id = some store →
        ¬ (store.openRetrieval = .inProgress ∧ store.timeRangeActive = true)) ↔
      ∀ entry ∈ snapshot.entries,
        ¬ (entry.2.openRetrieval = .inProgress ∧ entry.2.timeRangeActive = true) := by
  unfold restore at accepted
  split at accepted
  · cases accepted
  · rename_i registry built
    cases accepted
    exact Snapshot.exclusive_iff_of_toRegistry_eq_ok built

/-- A snapshot that lists an outstanding by-time-range retrieval alone restores
nothing else. -/
theorem outstanding_retrieval_is_restored_alone :
    let store := { PacketStore.create 100 .circular 1 with timeRangeRetrieval := some ⟨1, 2⟩ }
    let snapshot : Snapshot := ⟨[(⟨"log", by decide, by decide⟩, store)]⟩
    let service : Service := ⟨Config.standard, Registry.empty 4, Router.empty, ⟨0⟩⟩
    ∃ restored notices, service.restore snapshot = .ok (restored, notices) ∧
      ∀ id store, restored.registry.get? id = some store →
        ¬ (store.openRetrieval = .inProgress ∧ store.timeRangeActive = true) := by
  intro store snapshot service
  have accepted : service.restore snapshot = .ok (_, _) := rfl
  refine ⟨_, _, accepted, ?_⟩
  apply (restored_stores_exclude_iff_listed _ _ _ _ accepted).mpr
  simp [snapshot, store, PacketStore.create]

/-- On the standard platform, which has no concurrent retrieval, a store is restored
with both retrievals. -/
theorem both_retrievals_are_restored :
    let id : StoreId := ⟨"log", by decide, by decide⟩
    let store := { PacketStore.create 100 .circular 1 with
      openRetrieval := .inProgress
      timeRangeRetrieval := some ⟨1, 2⟩ }
    let service : Service := ⟨Config.standard, Registry.empty 4, Router.empty, ⟨0⟩⟩
    Config.standard.check = .ok () ∧
      Config.standard.capabilities.concurrentRetrieval = false ∧
      start Config.standard ⟨0⟩ = .ok (service, []) ∧
      ∃ restored notices, service.restore ⟨[(id, store)]⟩ = .ok (restored, notices) ∧
        restored.registry.get? id = some store ∧
        store.openRetrieval = .inProgress ∧ store.timeRangeActive = true :=
  ⟨rfl, rfl, rfl, _, _, rfl, rfl, rfl, rfl⟩

/-- On a platform without concurrent retrieval, no run without a restore leads to
a store whose open retrieval runs while a by-time-range retrieval is outstanding
on it. -/
theorem retrievals_stay_exclusive {config : Config} (valid : config.check = .ok ())
    (single : config.capabilities.concurrentRetrieval = false) (clock : Clock) :
    ∃ fresh notices, start config clock = .ok (fresh, notices) ∧
      ∀ operations : List Operation, (∀ snapshot, .restore snapshot ∉ operations) →
        ∀ id store, (fresh.run operations).1.registry.get? id = some store →
          ¬ (store.openRetrieval = .inProgress ∧ store.timeRangeActive = true) := by
  obtain ⟨router, started⟩ := exists_start_eq_ok valid clock
  refine ⟨_, _, started, ?_⟩
  intro operations unrestored
  have empty : Exclusive ⟨config, Registry.empty config.maxStores.toNat, router, clock⟩ := by
    intro id store found
    cases found
  apply empty.run single
  intro operation performed
  cases operation with
  | restore snapshot => exact absurd performed (unrestored snapshot)
  | _ => trivial

/-- On the standard platform a store is asked for both retrievals, in either
order, and for one of them again after the other has ended. -/
theorem asked_for_both_retrievals :
    let id : StoreId := ⟨"log", by decide, by decide⟩
    let operations : List Operation :=
      [.execute (.createStores [⟨id, 100, .circular, 1⟩]),
        .execute (.resumeOpenRetrieval [] none),
        .execute (.startTimeRangeRetrieval [⟨id, ⟨1, 2⟩, none⟩]),
        .execute (.suspendOpenRetrieval []),
        .execute (.startTimeRangeRetrieval [⟨id, ⟨3, 4⟩, none⟩]),
        .execute (.resumeOpenRetrieval [id, id] none)]
    ∃ fresh notices store, start Config.standard ⟨7⟩ = .ok (fresh, notices) ∧
      (fresh.run operations).1.registry.get? id = some store ∧
      store.timeRangeRetrieval = some ⟨3, 4⟩ ∧
      ¬ (store.openRetrieval = .inProgress ∧ store.timeRangeActive = true) := by
  intro id operations
  obtain ⟨fresh, notices, started, exclusive⟩ :=
    retrievals_stay_exclusive (rfl : Config.standard.check = .ok ()) rfl ⟨7⟩
  have fresh_eq : start Config.standard ⟨7⟩ =
      .ok (⟨Config.standard, Registry.empty 4, Router.empty, ⟨7⟩⟩, []) := rfl
  rw [fresh_eq] at started
  cases started
  have unrestored : ∀ snapshot, Operation.restore snapshot ∉ operations := by
    simp [operations]
  have found : ((run ⟨Config.standard, Registry.empty 4, Router.empty, ⟨7⟩⟩
      operations).1.registry.get? id).map PacketStore.timeRangeRetrieval =
        some (some ⟨3, 4⟩) := by
    decide +kernel
  obtain ⟨store, held, range_eq⟩ := Option.map_eq_some_iff.mp found
  exact ⟨_, _, store, fresh_eq, held, range_eq, exclusive operations unrestored id store held⟩

end Service

end OnboardStorage
