import OnboardStorage.Proofs.Outcome
import OnboardStorage.Proofs.PacketStore.Copy
import OnboardStorage.Proofs.PacketStore.TimeOrder

/-!
# Sound packet stores

A store is sound under a configuration when its settings are among those the
platform accepts, its outstanding time-range retrieval has a start before its
end, and its content is in time order, made of messages of acceptable length,
and within its capacity.  Every way in which the service changes a store keeps
it sound; copying needs a sound source as well, because the messages it admits
are not measured again.
-/

namespace OnboardStorage.PacketStore

/-- A store that a platform of the given configuration can hold. -/
structure Sound (config : Config) (store : PacketStore) : Prop where
  capacity_pos : 0 < store.capacity
  capacity_le : store.capacity ≤ config.maxStoreBytes
  channel_ge : config.virtualChannels.lowest ≤ store.virtualChannel
  channel_le : store.virtualChannel ≤ config.virtualChannels.highest
  range : ∀ range ∈ store.timeRangeRetrieval, range.start < range.stop
  ordered : store.packets.Pairwise fun older newer => older.timeTag ≤ newer.timeTag
  messages : ∀ packet ∈ store.packets,
    1 ≤ packet.size ∧ packet.size ≤ config.maxMessageBytes.toNat
  fits : Packet.totalSize store.packets ≤ store.capacity.toNat

variable {config : Config} {store : PacketStore}

theorem Sound.nonempty (sound : store.Sound config) :
    ∀ packet ∈ store.packets, packet.data ≠ [] :=
  fun packet member => List.length_pos_iff.mp (sound.messages packet member).1

/-! ## New stores and settings -/

theorem acceptsStoreSize_iff {bytes : UInt32} :
    config.acceptsStoreSize bytes = true ↔ 0 < bytes ∧ bytes ≤ config.maxStoreBytes := by
  simp [Config.acceptsStoreSize]

theorem contains_iff {range : VirtualChannels} {channel : UInt8} :
    range.contains channel = true ↔ range.lowest ≤ channel ∧ channel ≤ range.highest := by
  simp [VirtualChannels.contains]

theorem sound_create {capacity : UInt32} {kind : StoreKind} {channel : UInt8}
    (size : config.acceptsStoreSize capacity = true)
    (valid : config.virtualChannels.contains channel = true) :
    Sound config (create capacity kind channel) where
  capacity_pos := (acceptsStoreSize_iff.mp size).1
  capacity_le := (acceptsStoreSize_iff.mp size).2
  channel_ge := (contains_iff.mp valid).1
  channel_le := (contains_iff.mp valid).2
  range := by simp [create]
  ordered := by simp [create, packets]
  messages := by simp [create, packets]
  fits := by simp [create, packets]

/-! ## Content -/

/-- Packets that leave at the front leave a sound store behind. -/
theorem Sound.of_suffix (sound : store.Sound config) {kept : PacketStore}
    (settings : kept = { store with content := kept.content })
    (suffix : kept.packets <:+ store.packets) : kept.Sound config := by
  have smaller : Packet.totalSize kept.packets ≤ Packet.totalSize store.packets := by
    obtain ⟨gone, equal⟩ := suffix
    rw [← equal, Packet.totalSize_append]
    exact Nat.le_add_left _ _
  have capacity_eq : kept.capacity = store.capacity := by rw [settings]
  have channel_eq : kept.virtualChannel = store.virtualChannel := by rw [settings]
  have range_eq : kept.timeRangeRetrieval = store.timeRangeRetrieval := by rw [settings]
  exact {
    capacity_pos := capacity_eq ▸ sound.capacity_pos
    capacity_le := capacity_eq ▸ sound.capacity_le
    channel_ge := channel_eq ▸ sound.channel_ge
    channel_le := channel_eq ▸ sound.channel_le
    range := range_eq ▸ sound.range
    ordered := sound.ordered.sublist suffix.sublist
    messages := fun packet member => sound.messages packet (suffix.subset member)
    fits := capacity_eq ▸ Nat.le_trans smaller sound.fits }

theorem Sound.deleteUntil (sound : store.Sound config) (limit : TimeTag) :
    (store.deleteUntil limit).1.Sound config := by
  refine sound.of_suffix rfl ?_
  rw [packets_deleteUntil]
  exact List.dropWhile_suffix _

theorem Sound.resize (sound : store.Sound config) {capacity : UInt32}
    (size : config.acceptsStoreSize capacity = true) :
    (store.resize capacity).1.Sound config := by
  have shrunk := store.shrinks_resize capacity
  have suffix : (store.resize capacity).1.packets <:+ store.packets := by
    rw [shrunk.packets]
    exact List.drop_suffix _ _
  exact {
    capacity_pos := (acceptsStoreSize_iff.mp size).1
    capacity_le := (acceptsStoreSize_iff.mp size).2
    channel_ge := sound.channel_ge
    channel_le := sound.channel_le
    range := sound.range
    ordered := sound.ordered.sublist suffix.sublist
    messages := fun packet member => sound.messages packet (suffix.subset member)
    fits := shrunk.fits }

/-- A packet of acceptable length that is taken keeps the store sound. -/
theorem Sound.of_takes (sound : store.Sound config) {packet : Packet}
    {grown : PacketStore} {evicted : Nat}
    (taken : store.Takes packet grown evicted)
    (short : packet.size ≤ config.maxMessageBytes.toNat) : grown.Sound config := by
  have capacity_eq : grown.capacity = store.capacity := by rw [taken.settings]
  have channel_eq : grown.virtualChannel = store.virtualChannel := by
    rw [taken.settings]
  have range_eq : grown.timeRangeRetrieval = store.timeRangeRetrieval := by
    rw [taken.settings]
  have suffix : store.packets.drop evicted <:+ store.packets := List.drop_suffix _ _
  refine {
    capacity_pos := capacity_eq ▸ sound.capacity_pos
    capacity_le := capacity_eq ▸ sound.capacity_le
    channel_ge := channel_eq ▸ sound.channel_ge
    channel_le := channel_eq ▸ sound.channel_le
    range := range_eq ▸ sound.range
    ordered := ?_
    messages := ?_
    fits := capacity_eq ▸ taken.fits }
  · rw [taken.packets, List.pairwise_append]
    refine ⟨sound.ordered.sublist suffix.sublist, List.pairwise_singleton _ _, ?_⟩
    intro older member newer isNew
    rw [List.mem_singleton.mp isNew]
    have present := suffix.subset member
    cases last : store.newestTag? with
    | none =>
        rw [newestTag?_eq_none_iff.mp last] at present
        cases present
    | some newest =>
        exact UInt32.le_trans (tag_le_newest sound.ordered last present)
          (taken.ordered newest last)
  · rw [taken.packets]
    intro held member
    rcases List.mem_append.mp member with old | new
    · exact sound.messages held (suffix.subset old)
    · rw [List.mem_singleton.mp new]
      exact ⟨List.length_pos_iff.mpr taken.nonempty, short⟩

/-! ## Copying -/

theorem Sound.acceptEach {packets : List Packet} (sound : store.Sound config)
    (short : ∀ packet ∈ packets, packet.size ≤ config.maxMessageBytes.toNat)
    (admitted evicted rejected : Nat) :
    (store.acceptEach admitted evicted rejected packets).1.Sound config := by
  apply acceptEach_preserves (fun next => next.Sound config) _ sound
  intro earlier grown packet dropped member taken kept
  exact kept.of_takes taken (short packet member)

theorem Sound.copyWindow {source : PacketStore} (sound : store.Sound config)
    (sourceSound : source.Sound config) (window : Window) :
    (source.copyWindow store window).1.Sound config := by
  have short : ∀ packet ∈ source.selected window,
      packet.size ≤ config.maxMessageBytes.toNat := by
    intro packet member
    have scanned := (List.mem_filter.mp member).1
    exact (sourceSound.messages packet ((List.takeWhile_prefix _).subset scanned)).2
  rw [copyWindow_eq]
  cases source.copyObstacle? store window with
  | some cause => exact sound
  | none => exact sound.acceptEach short 0 0 0

/-! ## Actions -/

theorem Sound.effect (sound : store.Sound config) {action : Action}
    (free : action.obstacle? config store = none) :
    (action.effect config store).Sound config := by
  cases action with
  | setStorage enabled => exact { sound with }
  | startTimeRange range priority =>
      have valid : (Window.between range.start range.stop).fault? = none :=
        (Option.or_eq_none_iff.mp free).2
      have before : range.start < range.stop := by
        simpa [Window.fault?] using valid
      exact { sound with
        range := fun given equal => by
          cases equal
          exact before }
  | deleteContent limit => exact sound.deleteUntil limit
  | moveOpenStart start => exact { sound with }
  | resumeOpen priority => exact { sound with }
  | suspendOpen => exact { sound with }
  | abortTimeRange => exact { sound with range := fun _ equal => nomatch equal }
  | resize size =>
      have accepted : config.acceptsStoreSize size = true :=
        (requiring_eq_none_iff.mp free).1
      exact sound.resize accepted
  | changeKind kind => exact { sound with }
  | changeChannel channel =>
      have accepted : config.virtualChannels.contains channel = true :=
        (requiring_eq_none_iff.mp free).1
      exact { sound with
        channel_ge := (contains_iff.mp accepted).1
        channel_le := (contains_iff.mp accepted).2 }

end OnboardStorage.PacketStore
