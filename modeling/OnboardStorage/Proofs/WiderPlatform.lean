import OnboardStorage.Proofs.Restoration
import Mathlib.Data.List.Infix

/-!
# A wider platform serves the same runs

The limits of a platform, and whether it retrieves concurrently, are looked at only to
turn something down.  Whatever a platform carries out, a platform with looser limits
carries out in the same way; so a run in which nothing is turned down goes on
identically there, step for step.

The limits of the two platforms appear in the state of the service as well, in its
configuration and in the limit of its registry.  These are what the two runs differ in,
and nothing else.
-/

namespace OnboardStorage

/-- No limit of the other configuration is tighter, it may allow retrievals side by
side, and all else is the same.  The level of the log may be any. -/
structure Config.WidensTo (config wider : Config) : Prop extends config.FitsInto wider where
  concurrent : config.capabilities.concurrentRetrieval = true →
    wider.capabilities.concurrentRetrieval = true
  prioritized :
    wider.capabilities.prioritizedRetrieval = config.capabilities.prioritizedRetrieval
  routes : wider.routes = config.routes

namespace Config.WidensTo

variable {config wider : Config} (widens : config.WidensTo wider)

include widens

/-- The platform takes no fewer stores. -/
theorem limit_le :
    min config.maxStores.toNat Limits.stores ≤ min wider.maxStores.toNat Limits.stores := by
  have looser : config.maxStores.toNat ≤ wider.maxStores.toNat := widens.stores
  omega

/-! ## Checks that still pass -/

theorem acceptsStoreSize {bytes : UInt32} (accepted : config.acceptsStoreSize bytes = true) :
    wider.acceptsStoreSize bytes = true := by
  rw [PacketStore.acceptsStoreSize_iff] at accepted ⊢
  exact ⟨accepted.1, UInt32.le_trans accepted.2 widens.storeBytes⟩

theorem contains {channel : UInt8}
    (contained : config.virtualChannels.contains channel = true) :
    wider.virtualChannels.contains channel = true := by
  rw [PacketStore.contains_iff] at contained ⊢
  exact ⟨UInt8.le_trans widens.lowest contained.1,
    UInt8.le_trans contained.2 widens.highest⟩

/-- A change that no running job forbids is not forbidden where more jobs may run side
by side. -/
theorem blocker?_eq_none {store : PacketStore} (change : Change)
    (free : store.blocker? config.capabilities change = none) :
    store.blocker? wider.capabilities change = none := by
  have notSingle {running : Prop}
      (passed : ¬ (running ∧ (!config.capabilities.concurrentRetrieval) = true)) :
      ¬ (running ∧ (!wider.capabilities.concurrentRetrieval) = true) := by
    rintro ⟨runs, single⟩
    apply passed
    constructor
    · exact runs
    · cases concurrent : config.capabilities.concurrentRetrieval with
      | false => rfl
      | true => simp [widens.concurrent concurrent] at single
  cases change with
  | startTimeRange =>
      rcases refusing_eq_none_iff.mp free with ⟨passed, others⟩
      exact refusing_eq_none_iff.mpr ⟨notSingle passed, others⟩
  | resumeOpen =>
      rcases refusing_eq_none_iff.mp free with ⟨passed, others⟩
      exact refusing_eq_none_iff.mpr ⟨notSingle passed, others⟩
  | _ => exact free

theorem obstacle?_eq_none {store : PacketStore} {action : Action}
    (free : action.obstacle? config store = none) :
    action.obstacle? wider store = none := by
  cases action with
  | startTimeRange range priority =>
      rcases Option.or_eq_none_iff.mp free with ⟨unblocked, window⟩
      exact Option.or_eq_none_iff.mpr ⟨widens.blocker?_eq_none _ unblocked, window⟩
  | resize size =>
      rcases requiring_eq_none_iff.mp free with ⟨accepted, unblocked⟩
      exact requiring_eq_none_iff.mpr
        ⟨widens.acceptsStoreSize accepted, widens.blocker?_eq_none .resize unblocked⟩
  | changeChannel channel =>
      rcases requiring_eq_none_iff.mp free with ⟨contained, unblocked⟩
      exact requiring_eq_none_iff.mpr
        ⟨widens.contains contained, widens.blocker?_eq_none .changeChannel unblocked⟩
  | deleteContent limit => exact widens.blocker?_eq_none .deleteContent free
  | moveOpenStart start => exact widens.blocker?_eq_none .moveOpenStart free
  | resumeOpen priority => exact widens.blocker?_eq_none .resumeOpen free
  | changeKind kind => exact widens.blocker?_eq_none .changeKind free
  | setStorage | suspendOpen | abortTimeRange => exact free

/-- What an action does to a store depends on no limit. -/
theorem effect_eq (action : Action) :
    (fun store => action.effect wider store) = fun store => action.effect config store := by
  have heeded (store : PacketStore) (priority : Option UInt16) :
      Action.heededPriority wider.capabilities store priority =
        Action.heededPriority config.capabilities store priority := by
    rw [Action.heededPriority, widens.prioritized]
    rfl
  cases action with
  | startTimeRange | resumeOpen => simp only [Action.effect, heeded]
  | _ => rfl

end Config.WidensTo

/-- Whether no item failed, no internal error arose, no report was refused and no
snapshot was rejected. -/
def Answer.isUntroubled : Answer → Bool
  | .emitted emission => emission.isClean
  | .filed (.ok _) => true
  | .filed (.error _) => false
  | .restored fault => fault.isNone
  | .routed _ | .unrouted _ | .done => true

theorem Emission.isClean_append {first second : Emission} :
    (first ++ second).isClean = true ↔ first.isClean = true ∧ second.isClean = true := by
  simp [isClean, and_and_and_comm]

namespace Service

variable {service : Service} {wider : Config}

/-! ## Another platform -/

/-- The same stores, routes and clock on another platform. -/
def onPlatform (service : Service) (wider : Config) : Service where
  config := wider
  registry := ⟨min wider.maxStores.toNat Limits.stores, service.registry.stores⟩
  router := service.router
  clock := service.clock

/-- The service runs on a platform that widens to another one. -/
structure WidensTo (service : Service) (wider : Config) : Prop where
  config : service.config.WidensTo wider
  limit : service.registry.limit ≤ min wider.maxStores.toNat Limits.stores

/-- The outcome of carrying something out is the same on the wider platform. -/
def SameOn {α : Type} (wider : Config) (here there : Service × α) : Prop :=
  there = (here.1.onPlatform wider, here.2)

/-! ## Items -/

theorem get?_onPlatform (id : StoreId) :
    (service.onPlatform wider).registry.get? id = service.registry.get? id :=
  rfl

theorem WidensTo.act (widens : service.WidensTo wider) {id : StoreId} {action : Action}
    (clean : (service.act id action).2.isClean = true) :
    SameOn wider (service.act id action) ((service.onPlatform wider).act id action) := by
  unfold Service.act at clean ⊢
  rw [get?_onPlatform]
  cases found : service.registry.get? id with
  | none => rfl
  | some store =>
      cases free : action.obstacle? service.config store with
      | some cause => simp [found, free] at clean
      | none =>
          have stillFree : action.obstacle? (service.onPlatform wider).config store = none :=
            widens.config.obstacle?_eq_none free
          have same := widens.config.effect_eq action
          simp only [free, stillFree]
          simp only [onPlatform, same]
          rfl

theorem WidensTo.create (widens : service.WidensTo wider) {definition : StoreDefinition}
    (clean : (service.create definition).2.isClean = true) :
    SameOn wider (service.create definition)
      ((service.onPlatform wider).create definition) := by
  cases free : service.creationObstacle? definition with
  | some cause => simp [Service.create, free] at clean
  | none =>
      rcases creationObstacle?_eq_none_iff.mp free with ⟨absent, room, channel, size⟩
      have stillFree : (service.onPlatform wider).creationObstacle? definition = none := by
        rw [creationObstacle?_eq_none_iff]
        exact ⟨absent, Nat.lt_of_lt_of_le room widens.limit, widens.config.contains channel,
          widens.config.acceptsStoreSize size⟩
      rw [create_eq_of_free free, create_eq_of_free stillFree]
      rfl

/-- A deletion looks at no limit. -/
theorem delete_onPlatform (id : StoreId) :
    SameOn wider (service.delete id) ((service.onPlatform wider).delete id) := by
  have obstacle_eq : (service.onPlatform wider).deletionObstacle? id =
      service.deletionObstacle? id :=
    rfl
  simp only [Service.delete, obstacle_eq]
  cases service.deletionObstacle? id with
  | none => rfl
  | some cause => cases cause <;> rfl

/-- A copy looks at no limit. -/
theorem copy_onPlatform (order : CopyOrder) :
    SameOn wider (service.copy order) ((service.onPlatform wider).copy order) := by
  have between (kind : WindowKind) : SameOn wider (service.copyBetween order kind)
      ((service.onPlatform wider).copyBetween order kind) := by
    have ends_eq : (service.onPlatform wider).registry.sourceAndDestination? order.source
        order.destination =
          service.registry.sourceAndDestination? order.source order.destination :=
      rfl
    simp only [Service.copyBetween, ends_eq, get?_onPlatform]
    cases service.registry.sourceAndDestination? order.source order.destination <;> rfl
  have contains_eq (id : StoreId) : (service.onPlatform wider).registry.contains id =
      service.registry.contains id :=
    rfl
  simp only [Service.copy, contains_eq]
  split
  · rfl
  split
  · rfl
  split
  · rfl
  · exact between _

theorem WidensTo.perform (widens : service.WidensTo wider) {item : Item}
    (clean : (service.perform item).2.isClean = true) :
    SameOn wider (service.perform item) ((service.onPlatform wider).perform item) := by
  cases item with
  | act id action => exact widens.act clean
  | create definition => exact widens.create clean
  | delete id => exact delete_onPlatform id
  | copy order => exact copy_onPlatform order

/-- The platform stays as it is while items are carried out. -/
theorem WidensTo.after_perform (widens : service.WidensTo wider) (item : Item) :
    (service.perform item).1.WidensTo wider where
  config := by
    rw [(service.perform_frame item).1]
    exact widens.config
  limit := by
    rw [service.limit_perform item]
    exact widens.limit

theorem WidensTo.performEach (widens : service.WidensTo wider) {items : List Item}
    (clean : (service.performEach items).2.isClean = true) :
    SameOn wider (service.performEach items)
      ((service.onPlatform wider).performEach items) := by
  induction items generalizing service with
  | nil => rfl
  | cons item rest ih =>
      rw [performEach_cons, Emission.isClean_append] at clean
      have first := widens.perform clean.1
      have others := ih (widens.after_perform item) clean.2
      unfold SameOn at first others ⊢
      rw [performEach_cons, performEach_cons, first, others]

/-! ## Requests and reports -/

theorem WidensTo.execute (widens : service.WidensTo wider) {request : Request}
    (clean : (service.execute request).2.isClean = true) :
    SameOn wider (service.execute request) ((service.onPlatform wider).execute request) := by
  have items_eq : request.items (service.onPlatform wider).registry =
      request.items service.registry := by
    cases request <;> rfl
  have reporting_eq : request.reporting (service.onPlatform wider).registry =
      request.reporting service.registry := by
    cases request <;> rfl
  simp only [Service.execute, Emission.isClean_append] at clean
  have performed := widens.performEach clean.1.2
  unfold SameOn at performed ⊢
  simp only [Service.execute, items_eq, reporting_eq, performed]

theorem WidensTo.storeReport (widens : service.WidensTo wider) {serviceType : UInt8}
    {data : List UInt8} {outcome : Insertion}
    (stored : (service.storeReport serviceType data).2.1 = .ok outcome) :
    SameOn wider (service.storeReport serviceType data)
      ((service.onPlatform wider).storeReport serviceType data) := by
  have router_eq : (service.onPlatform wider).router = service.router := rfl
  have clock_eq : (service.onPlatform wider).clock = service.clock := rfl
  unfold Service.storeReport at stored ⊢
  rw [router_eq, clock_eq]
  cases routed : service.router.destination? serviceType with
  | none => rfl
  | some id =>
      simp only [get?_onPlatform]
      cases found : service.registry.get? id with
      | none => rfl
      | some store =>
          simp only [routed, found] at stored ⊢
          by_cases disabled : (!store.storageEnabled) = true
          · simp only [if_pos disabled]
            rfl
          · by_cases long : service.config.maxMessageBytes.toNat < data.length
            · rw [if_neg disabled, if_pos long] at stored
              cases stored
            · have looser : service.config.maxMessageBytes.toNat ≤
                  wider.maxMessageBytes.toNat := widens.config.messageBytes
              have short : ¬ (service.onPlatform wider).config.maxMessageBytes.toNat <
                  data.length :=
                Nat.not_lt.mpr (Nat.le_trans (Nat.not_lt.mp long) looser)
              simp only [if_neg disabled, if_neg long, if_neg short]
              rfl

/-- A snapshot that a platform accepts describes the same stores on a wider one. -/
theorem WidensTo.restore (widens : service.WidensTo wider) {snapshot : Snapshot}
    {restored : Service} {notices : List Notice}
    (accepted : service.restore snapshot = .ok (restored, notices)) :
    (service.onPlatform wider).restore snapshot =
      .ok (restored.onPlatform wider, notices) := by
  unfold Service.restore at accepted ⊢
  cases built : snapshot.toRegistry service.config with
  | error fault =>
      rw [built] at accepted
      cases accepted
  | ok registry =>
      rw [built] at accepted
      cases accepted
      rcases Snapshot.toRegistry_eq_ok_iff.mp built with ⟨few, distinct, sound, rfl⟩
      have builtThere : snapshot.toRegistry (service.onPlatform wider).config =
          .ok ⟨min wider.maxStores.toNat Limits.stores,
            OrderedMap.empty.insertAll snapshot.entries⟩ := by
        rw [Snapshot.toRegistry_eq_ok_iff]
        constructor
        · exact Nat.le_trans few widens.config.limit_le
        · exact ⟨distinct, fun entry listed =>
            (sound entry listed).of_fitsInto widens.config.toFitsInto, rfl⟩
      rw [builtThere]
      rfl

/-! ## Operations -/

/-- An operation that is not turned down has the same outcome on the wider platform. -/
theorem WidensTo.operate (widens : service.WidensTo wider) {operation : Operation}
    (untroubled : (service.operate operation).2.isUntroubled = true) :
    SameOn wider (service.operate operation)
      ((service.onPlatform wider).operate operation) := by
  cases operation with
  | execute request =>
      have same := widens.execute untroubled
      unfold SameOn at same ⊢
      simp only [Service.operate, same]
  | report serviceType data =>
      simp only [Service.operate] at untroubled
      cases filed : (service.storeReport serviceType data).2.1 with
      | error refusal =>
          rw [filed] at untroubled
          cases untroubled
      | ok outcome =>
          have same := widens.storeReport filed
          unfold SameOn at same ⊢
          simp only [Service.operate, same]
  | setClock tag => rfl
  | advanceClock duration => rfl
  | route serviceType store =>
      have router_eq : (service.onPlatform wider).router = service.router := rfl
      simp only [Service.operate, router_eq]
      cases service.router.route serviceType store <;> rfl
  | unroute serviceType => rfl
  | clearRoutes => rfl
  | reset => rfl
  | restore snapshot =>
      cases accepted : service.restore snapshot with
      | error fault =>
          simp only [Service.operate, accepted] at untroubled
          cases untroubled
      | ok answer =>
          have same := widens.restore accepted
          unfold SameOn
          simp only [Service.operate, accepted, same]

/-- No operation leaves the platform, and a restored registry has the limit that the
platform sets. -/
theorem WidensTo.after_operate (widens : service.WidensTo wider) (operation : Operation) :
    (service.operate operation).1.WidensTo wider where
  config := by
    rw [service.config_operate operation]
    exact widens.config
  limit := by
    cases operation with
    | execute request =>
        exact Nat.le_trans (Nat.le_of_eq (service.limit_performEach _)) widens.limit
    | report serviceType data =>
        exact Nat.le_trans (Nat.le_of_eq (service.limit_storeReport _ _)) widens.limit
    | restore snapshot =>
        simp only [Service.operate, Service.restore]
        cases built : snapshot.toRegistry service.config with
        | error fault => exact widens.limit
        | ok registry =>
            rcases Snapshot.toRegistry_eq_ok_iff.mp built with ⟨-, -, -, rfl⟩
            exact widens.config.limit_le
    | route serviceType store =>
        simp only [Service.operate]
        split <;> exact widens.limit
    | setClock | advanceClock | unroute | clearRoutes | reset => exact widens.limit

/-! ## Runs -/

/-- A run in which nothing is turned down goes on identically on the wider platform. -/
theorem WidensTo.run (widens : service.WidensTo wider) {operations : List Operation}
    (untroubled : ∀ answer ∈ (service.run operations).2, answer.isUntroubled = true) :
    SameOn wider (service.run operations) ((service.onPlatform wider).run operations) := by
  induction operations generalizing service with
  | nil => rfl
  | cons operation rest ih =>
      rw [run_cons, List.forall_mem_cons] at untroubled
      have first := widens.operate untroubled.1
      have others := ih (widens.after_operate operation) untroubled.2
      unfold SameOn at first others ⊢
      rw [run_cons, run_cons, first, others]

/-- What is started on a platform can be started on a wider one that is valid. -/
theorem start_onPlatform {config : Config} {clock : Clock} {fresh : Service}
    {notices : List Notice} (widens : config.WidensTo wider)
    (valid : wider.check = .ok ())
    (started : start config clock = .ok (fresh, notices)) :
    start wider clock = .ok (fresh.onPlatform wider, notices) ∧ fresh.WidensTo wider := by
  rcases eq_of_start_eq_ok started with ⟨validHere, -, -, -⟩
  unfold start at started ⊢
  rw [validHere] at started
  rw [valid, widens.routes]
  cases routed : Router.ofRoutes config.routes with
  | error fault =>
      rw [routed] at started
      cases started
  | ok router =>
      rw [routed] at started
      cases started
      constructor
      · rfl
      · exact ⟨widens, widens.limit_le⟩

/-- Relaxing the limits of a platform, or letting it retrieve concurrently, breaks no
working run: if all goes well in a run of a fresh service, the same operations meet the
same answers on the wider platform, and after every one of them the same stores are
there, under the same identifiers. -/
theorem wider_platform_serves_the_same_runs {config wider : Config}
    (valid : config.check = .ok ()) (widerValid : wider.check = .ok ())
    (widens : config.WidensTo wider) (clock : Clock) :
    ∃ fresh relaxed notices,
      start config clock = .ok (fresh, notices) ∧
      start wider clock = .ok (relaxed, notices) ∧
      ∀ operations : List Operation,
        (∀ answer ∈ (fresh.run operations).2, answer.isUntroubled = true) →
        (relaxed.run operations).2 = (fresh.run operations).2 ∧
        ∀ earlier, earlier <+: operations → ∀ id,
          (relaxed.run earlier).1.registry.get? id =
            (fresh.run earlier).1.registry.get? id := by
  rcases exists_start_eq_ok valid clock with ⟨router, started⟩
  rcases start_onPlatform widens widerValid started with ⟨startedThere, widensFresh⟩
  refine ⟨_, _, _, started, startedThere, ?_⟩
  intro operations untroubled
  constructor
  · have same := widensFresh.run untroubled
    unfold SameOn at same
    rw [same]
  · rintro earlier ⟨later, rfl⟩ id
    rw [run_append] at untroubled
    have same := widensFresh.run fun answer answered =>
      untroubled answer (List.mem_append_left _ answered)
    unfold SameOn at same
    rw [same, get?_onPlatform]

/-- A session with a retrieval in progress goes on identically on a platform with more
room, more channels and concurrent retrieval. -/
theorem session_moves_to_a_wider_platform :
    let id : StoreId := ⟨"log", by decide, by decide⟩
    let config : Config :=
      { Config.standard with maxMessageBytes := 512, routes := [⟨3, id⟩] }
    let wider : Config :=
      { config with
        maxStores := 8
        maxStoreBytes := 8192
        maxMessageBytes := 1024
        virtualChannels := ⟨0, 20⟩
        capabilities := ⟨true, true⟩ }
    let operations : List Operation :=
      [.execute (.createStores [⟨id, 4096, .circular, 10⟩]), .execute (.enableStorage []),
        .setClock 5, .report 3 [1, 2, 3], .execute (.resumeOpenRetrieval [id] none),
        .execute .reportStatus]
    config.check = .ok () ∧ wider.check = .ok () ∧
    ∃ fresh relaxed notices,
      start config ⟨0⟩ = .ok (fresh, notices) ∧ start wider ⟨0⟩ = .ok (relaxed, notices) ∧
      (∀ answer ∈ (fresh.run operations).2, answer.isUntroubled = true) ∧
      (relaxed.run operations).2 = (fresh.run operations).2 := by
  intro id config wider operations
  have valid : config.check = .ok () := rfl
  have widerValid : wider.check = .ok () := rfl
  have widens : config.WidensTo wider := by
    constructor
    · constructor <;> decide
    · intro concurrent
      cases concurrent
    · rfl
    · rfl
  rcases wider_platform_serves_the_same_runs valid widerValid widens ⟨0⟩ with
    ⟨fresh, relaxed, notices, started, startedThere, same⟩
  have untroubled : ∀ answer ∈ (fresh.run operations).2, answer.isUntroubled = true := by
    cases started
    decide +kernel
  constructor
  · exact valid
  constructor
  · exact widerValid
  · exact ⟨fresh, relaxed, notices, started, startedThere, untroubled,
      (same operations untroubled).1⟩

end Service

end OnboardStorage
