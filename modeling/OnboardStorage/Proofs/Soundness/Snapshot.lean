import OnboardStorage.Proofs.Check
import OnboardStorage.Proofs.Soundness.Store
import OnboardStorage.Snapshot

/-!
# Restoring accepts exactly the sound stores

The checks that a snapshot passes before a registry is built from it are the
conditions of `PacketStore.Sound`, no more and no less.  A snapshot is restored
exactly when it names distinct stores, not too many of them, and all of them
are sound; what is restored are then the stores it lists.
-/

namespace OnboardStorage.Snapshot

/-- Packets pass the check exactly when they follow each other, and the tag
before them, in time order and have acceptable lengths. -/
theorem packetDefect?_eq_none_iff {maxBytes : Nat} {previous : Option TimeTag}
    {packets : List Packet} :
    packetDefect? maxBytes previous packets = none ↔
      (∀ tag ∈ previous, ∀ packet ∈ packets, tag ≤ packet.timeTag) ∧
      packets.Pairwise (fun older newer => older.timeTag ≤ newer.timeTag) ∧
      ∀ packet ∈ packets, 1 ≤ packet.size ∧ packet.size ≤ maxBytes := by
  induction packets generalizing previous with
  | nil => simp [packetDefect?]
  | cons packet rest ih =>
      have late : previous.any (packet.timeTag < ·) = false ↔
          ∀ tag ∈ previous, tag ≤ packet.timeTag := by
        cases previous <;> simp [UInt32.not_lt]
      have filled : packet.data.isEmpty = false ↔ 1 ≤ packet.size := by
        simp [Packet.size, Nat.one_le_iff_ne_zero]
      have unfolded : packetDefect? maxBytes previous (packet :: rest) = none ↔
          previous.any (packet.timeTag < ·) = false ∧ packet.data.isEmpty = false ∧
            packet.size ≤ maxBytes ∧
            packetDefect? maxBytes (some packet.timeTag) rest = none := by
        rw [packetDefect?]
        simp only [refusing_eq_none_iff, Bool.not_eq_true, Nat.not_lt]
      rw [unfolded, late, filled, ih, List.pairwise_cons]
      simp only [Option.mem_some_iff, forall_eq', List.forall_mem_cons]
      constructor
      · rintro ⟨before, positive, short, after, ordered, messages⟩
        refine ⟨fun tag given => ⟨before tag given, ?_⟩, ⟨after, ordered⟩,
          ⟨positive, short⟩, messages⟩
        intro other member
        exact UInt32.le_trans (before tag given) (after other member)
      · rintro ⟨before, ⟨after, ordered⟩, ⟨positive, short⟩, messages⟩
        exact ⟨fun tag given => (before tag given).1, positive, short, after, ordered,
          messages⟩

/-- The check of one store is soundness. -/
theorem defect?_eq_none_iff {config : Config} {store : PacketStore} :
    defect? config store = none ↔ store.Sound config := by
  have range : store.timeRangeRetrieval.any (fun range => range.stop ≤ range.start) =
      false ↔ ∀ range ∈ store.timeRangeRetrieval, range.start < range.stop := by
    cases store.timeRangeRetrieval <;> simp [UInt32.not_le]
  have content := @packetDefect?_eq_none_iff config.maxMessageBytes.toNat none
    store.packets
  have unfolded : defect? config store = none ↔
      config.acceptsStoreSize store.capacity = true ∧
      config.virtualChannels.contains store.virtualChannel = true ∧
      store.timeRangeRetrieval.any (fun range => range.stop ≤ range.start) = false ∧
      packetDefect? config.maxMessageBytes.toNat none store.packets = none ∧
      store.storedBytes ≤ store.capacity.toNat := by
    unfold defect?
    simp only [refusing_eq_none_iff, Bool.not_eq_true, Bool.not_eq_false']
    cases packetDefect? config.maxMessageBytes.toNat none store.packets with
    | some defect => simp
    | none => simp
  rw [unfolded, PacketStore.acceptsStoreSize_iff, PacketStore.contains_iff, range,
    content, PacketStore.storedBytes_eq]
  constructor
  · rintro ⟨⟨positive, small⟩, ⟨low, high⟩, before, ⟨-, ordered, messages⟩, fits⟩
    exact ⟨positive, small, low, high, before, ordered, messages, fits⟩
  · intro sound
    exact ⟨⟨sound.capacity_pos, sound.capacity_le⟩, ⟨sound.channel_ge, sound.channel_le⟩,
      sound.range, ⟨by simp, sound.ordered, sound.messages⟩, sound.fits⟩

/-! ## Building the registry -/

theorem addEach_cons_eq_ok_iff {config : Config} {registry result : Registry}
    {id : StoreId} {store : PacketStore} {rest : List (StoreId × PacketStore)} :
    addEach config registry ((id, store) :: rest) = .ok result ↔
      store.Sound config ∧ registry.get? id = none ∧ registry.size < registry.limit ∧
      addEach config { registry with stores := registry.stores.insert id store } rest =
        .ok result := by
  rw [addEach, ← defect?_eq_none_iff]
  cases defect? config store with
  | some cause => simp
  | none =>
      cases created : registry.create id store with
      | error cause =>
          refine iff_of_false (by simp) ?_
          rintro ⟨-, absent, below, -⟩
          rw [Registry.create_eq_ok_iff.mpr ⟨absent, below, rfl⟩] at created
          cases created
      | ok extended =>
          obtain ⟨absent, below, rfl⟩ := Registry.create_eq_ok_iff.mp created
          simp [absent, below]

/-- After an insertion, those identifiers are free that were free before, other
than the one inserted. -/
theorem forall_get?_insert_eq_none_iff {registry : Registry} {id : StoreId}
    {store : PacketStore} {entries : List (StoreId × PacketStore)} :
    (∀ entry ∈ entries,
      ({ registry with stores := registry.stores.insert id store } : Registry).get?
        entry.1 = none) ↔
      id ∉ entries.map Prod.fst ∧ ∀ entry ∈ entries, registry.get? entry.1 = none := by
  have each : ∀ entry : StoreId × PacketStore,
      ({ registry with stores := registry.stores.insert id store } : Registry).get?
        entry.1 = none ↔ id ≠ entry.1 ∧ registry.get? entry.1 = none := by
    intro entry
    rw [Registry.get?_insert]
    by_cases same : id = entry.1
    · simp [same]
    · simp [same]
  simp only [each, List.mem_map, not_exists, not_and]
  constructor
  · intro free
    exact ⟨fun entry listed same => (free entry listed).1 same.symm,
      fun entry listed => (free entry listed).2⟩
  · rintro ⟨different, free⟩ entry listed
    exact ⟨fun same => different entry listed same.symm, free entry listed⟩

/-- Entries are added exactly when they are new, distinct and sound and there is
room for all of them. -/
theorem addEach_eq_ok_iff {config : Config} {registry result : Registry}
    {entries : List (StoreId × PacketStore)} (room : registry.size ≤ registry.limit) :
    addEach config registry entries = .ok result ↔
      (entries.map Prod.fst).Nodup ∧
      (∀ entry ∈ entries, registry.get? entry.1 = none) ∧
      (∀ entry ∈ entries, entry.2.Sound config) ∧
      registry.size + entries.length ≤ registry.limit ∧
      result = { registry with stores := registry.stores.insertAll entries } := by
  induction entries generalizing registry with
  | nil => simp [addEach, room, eq_comm]
  | cons first rest ih =>
      obtain ⟨id, store⟩ := first
      rw [addEach_cons_eq_ok_iff]
      simp only [List.map_cons, List.nodup_cons, List.forall_mem_cons,
        List.length_cons, OrderedMap.insertAll_cons]
      have size_eq (absent : registry.get? id = none) :
          ({ registry with stores := registry.stores.insert id store } :
            Registry).size = registry.size + 1 :=
        OrderedMap.size_insert_of_get?_eq_none absent store
      have room_iff : registry.size + 1 + rest.length ≤ registry.limit ↔
          registry.size + (rest.length + 1) ≤ registry.limit := by omega
      constructor
      · rintro ⟨sound, absent, below, added⟩
        rw [ih (by rw [size_eq absent]; exact below), forall_get?_insert_eq_none_iff,
          size_eq absent] at added
        obtain ⟨distinct, ⟨fresh, free⟩, others, fits, equal⟩ := added
        exact ⟨⟨fresh, distinct⟩, ⟨absent, free⟩, ⟨sound, others⟩, room_iff.mp fits,
          equal⟩
      · rintro ⟨⟨fresh, distinct⟩, ⟨absent, free⟩, ⟨sound, others⟩, fits, equal⟩
        have below : registry.size < registry.limit := by omega
        refine ⟨sound, absent, below, ?_⟩
        rw [ih (by rw [size_eq absent]; exact below), forall_get?_insert_eq_none_iff,
          size_eq absent]
        exact ⟨distinct, ⟨fresh, free⟩, others, room_iff.mpr fits, equal⟩

/-- A snapshot is restored exactly when its stores are distinct, sound and not
too many; what is restored are the stores it lists. -/
theorem toRegistry_eq_ok_iff {config : Config} {snapshot : Snapshot}
    {registry : Registry} :
    snapshot.toRegistry config = .ok registry ↔
      snapshot.entries.length ≤ min config.maxStores.toNat Limits.stores ∧
      (snapshot.entries.map Prod.fst).Nodup ∧
      (∀ entry ∈ snapshot.entries, entry.2.Sound config) ∧
      registry = ⟨min config.maxStores.toNat Limits.stores,
        OrderedMap.empty.insertAll snapshot.entries⟩ := by
  have room : (Registry.empty config.maxStores.toNat).size ≤
      (Registry.empty config.maxStores.toNat).limit :=
    Nat.zero_le _
  unfold toRegistry
  by_cases crowded : (Registry.empty config.maxStores.toNat).limit < snapshot.entries.length
  · have tooMany : ¬ snapshot.entries.length ≤ min config.maxStores.toNat Limits.stores :=
      Nat.not_le.mpr crowded
    simp only [crowded, if_true, reduceCtorEq, tooMany, false_and]
  · have notMany : snapshot.entries.length ≤ min config.maxStores.toNat Limits.stores :=
      Nat.not_lt.mp crowded
    have sizeZero : (Registry.empty config.maxStores.toNat).size = 0 := rfl
    simp only [crowded, if_false]
    rw [addEach_eq_ok_iff room]
    rw [sizeZero, Nat.zero_add]
    constructor
    · rintro ⟨distinct, -, sound, fits, rfl⟩
      exact ⟨fits, distinct, sound, rfl⟩
    · rintro ⟨fits, distinct, sound, rfl⟩
      exact ⟨distinct, fun entry _ => Registry.get?_empty _ entry.1, sound, fits, rfl⟩

/-- What is restored are the stores of the snapshot, each under its identifier. -/
theorem get?_eq_some_iff_of_toRegistry_eq_ok {config : Config} {snapshot : Snapshot}
    {registry : Registry} (restored : snapshot.toRegistry config = .ok registry)
    {id : StoreId} {store : PacketStore} :
    registry.get? id = some store ↔ (id, store) ∈ snapshot.entries := by
  obtain ⟨-, distinct, -, rfl⟩ := toRegistry_eq_ok_iff.mp restored
  simp only [Registry.get?]
  rw [OrderedMap.get?_insertAll distinct, OrderedMap.get?_empty, Option.or_none,
    lookup_eq_some_iff_of_nodup distinct]

end OnboardStorage.Snapshot
