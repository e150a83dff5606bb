import OnboardStorage.Proofs.PacketStore.Selection
import OnboardStorage.Proofs.Soundness.Run
import OnboardStorage.Proofs.Verdict.Grounds

/-!
# The checks follow the grounds

Each check of the service tries its causes in the order in which the grounds are
listed.  For actions this holds of any store.  The limit on the number of stores
and the copy are checked against derived quantities (the limit of the registry,
the tags of the oldest and newest packet), and there soundness is needed.
-/

namespace OnboardStorage

/-! ## Actions -/

theorem Config.unacceptable_size_iff {config : Config} {size : UInt32} :
    size = 0 ∨ config.maxStoreBytes < size ↔ ¬ config.acceptsStoreSize size = true := by
  rw [PacketStore.acceptsStoreSize_iff, Decidable.not_and_iff_not_or_not,
    UInt32.not_lt, UInt32.not_le, UInt32.le_zero_iff]

theorem VirtualChannels.outside_iff {range : VirtualChannels} {channel : UInt8} :
    channel < range.lowest ∨ range.highest < channel ↔ ¬ range.contains channel = true := by
  rw [PacketStore.contains_iff, Decidable.not_and_iff_not_or_not, UInt8.not_le, UInt8.not_le]

theorem PacketStore.decides_runningRetrieval? (store : PacketStore) :
    Decides store.retrievalGrounds store.runningRetrieval? := by
  apply Decides.refusing
  · exact Iff.rfl
  · intro _
    exact .refusal Iff.rfl

theorem Action.decides_obstacle? (config : Config) (store : PacketStore) (action : Action) :
    Decides (action.grounds config store) (action.obstacle? config store) := by
  cases action with
  | setStorage _ | suspendOpen | abortTimeRange => exact .free
  | startTimeRange range priority =>
      have blocked : Decides
          [⟨store.openRetrieval = .inProgress ∧
              config.capabilities.concurrentRetrieval = false, .openRetrievalInProgress⟩,
            ⟨store.timeRangeActive = true, .timeRangeRetrievalAlreadyEnabled⟩]
          (store.blocker? config.capabilities .startTimeRange) := by
        apply Decides.refusing
        · simp
        · intro _
          exact .refusal Iff.rfl
      apply blocked.append
      intro _
      exact .requirement UInt32.not_lt.symm
  | deleteContent limit => exact store.decides_runningRetrieval?
  | moveOpenStart start => exact .refusal Iff.rfl
  | resumeOpen priority =>
      apply Decides.refusal
      simp
  | resize size =>
      apply Decides.requiring Config.unacceptable_size_iff
      intro _
      exact store.decides_runningRetrieval?
  | changeKind kind => exact store.decides_runningRetrieval?
  | changeChannel channel =>
      apply Decides.requiring VirtualChannels.outside_iff
      intro _
      exact store.decides_runningRetrieval?

namespace Service

/-! ## Creation and deletion -/

/-- In a sound service of a checked configuration, the limit of the registry is the
configured one. -/
theorem Sound.limit_eq_maxStores {service : Service} (sound : service.Sound)
    (valid : service.config.check = .ok ()) :
    service.registry.limit = service.config.maxStores.toNat := by
  rw [sound.limit_eq]
  exact Nat.min_eq_left (Config.check_eq_ok_iff.mp valid).1.2

theorem Sound.decides_creationObstacle? {service : Service} (sound : service.Sound)
    (valid : service.config.check = .ok ()) (definition : StoreDefinition) :
    Decides (service.creationGrounds definition)
      (service.creationObstacle? definition) := by
  apply Decides.refusing
  · simp [Registry.contains, Option.isSome_iff_ne_none]
  intro _
  apply Decides.refusing
  · simp [Registry.isFull, sound.limit_eq_maxStores valid]
  intro _
  apply Decides.refusing
  · simp [VirtualChannels.outside_iff]
  intro _
  apply Decides.refusal
  simp [Config.unacceptable_size_iff]

end Service

theorem Router.isRouted_iff {router : Router} {id : StoreId} :
    router.isRouted id = true ↔ ∃ serviceType, router.destination? serviceType = some id := by
  simp only [isRouted, destination?, List.any_eq_true, decide_eq_true_eq,
    ← OrderedMap.mem_entries_iff]
  constructor
  · rintro ⟨⟨serviceType, store⟩, listed, rfl⟩
    exact ⟨serviceType, listed⟩
  · rintro ⟨serviceType, listed⟩
    exact ⟨_, listed, rfl⟩

namespace Service

theorem decides_deletion (service : Service) (id : StoreId) (store : PacketStore) :
    Decides (service.deletionGrounds id store)
      ((store.blocker? service.config.capabilities .delete).or
        (if service.router.isRouted id then some .storeRouted else none)) := by
  have blocked : Decides
      (⟨store.storageEnabled = true, .storageEnabled⟩ :: store.retrievalGrounds)
      (store.blocker? service.config.capabilities .delete) := by
    apply Decides.refusing
    · exact Iff.rfl
    · intro _
      exact store.decides_runningRetrieval?
  apply blocked.append
  intro _
  exact .refusal Router.isRouted_iff.symm

end Service

/-! ## Copying -/

namespace WindowKind

theorem ofCode_eq_ok_iff {code : UInt8} {kind : WindowKind} :
    ofCode code = .ok kind ↔ code = kind.code := by
  constructor
  · intro named
    unfold ofCode at named
    split at named
    · rename_i other found
      cases named
      have same := List.find?_some found
      exact (of_decide_eq_true same).symm
    · cases named
  · rintro rfl
    exact ofCode_code kind

theorem ofCode_eq_error {code : UInt8} (unnamed : ∀ kind : WindowKind, code ≠ kind.code) :
    ofCode code = .error ⟨code⟩ := by
  unfold ofCode
  split
  · rename_i kind found
    have same := List.find?_some found
    exact absurd (of_decide_eq_true same).symm (unnamed kind)
  · rfl

end WindowKind

/-- The grounds against an order are those against copying its window. -/
theorem CopyOrder.grounds_eq {order : CopyOrder} {kind : WindowKind}
    (named : order.windowCode = kind.code) (source destination : PacketStore) :
    order.grounds source destination =
      source.copyGrounds destination (Window.ofKind kind order.start order.stop) := by
  rw [grounds, PacketStore.copyGrounds, named]
  cases kind <;>
    simp [Window.ofKind, Window.start?, Window.stop?, WindowKind.code]

/-- A copy from a sound store is checked by its grounds. -/
theorem CopyOrder.decides_copyObstacle? {config : Config} {order : CopyOrder}
    {source destination : PacketStore} {kind : WindowKind}
    (sound : source.Sound config) (named : order.windowCode = kind.code) :
    Decides (order.grounds source destination)
      (source.copyObstacle? destination
        (Window.ofKind kind order.start order.stop)) := by
  rw [grounds_eq named]
  exact PacketStore.decides_copyObstacle? sound.ordered destination _

end OnboardStorage
