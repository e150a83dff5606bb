import OnboardStorage.Proofs.Operation
import OnboardStorage.Proofs.Soundness.Snapshot
import OnboardStorage.Proofs.Verdict.Decisions

/-!
# Which snapshots are accepted, and what the others are told

A snapshot is accepted exactly when it lists few enough stores, under distinct
identifiers and all of them sound; the registry then holds what the snapshot lists.
Of any other snapshot either the number of stores is the fault, or the first entry
with something against it is, whatever the entries behind it hold.

The registry has checks of its own for what is added to it.  Its check for repeated
identifiers is the last ground against an entry.  Its check for room stands on no list,
since the stores are counted before the first one is added.
-/

namespace OnboardStorage.Snapshot

/-! ## Grounds against an entry -/

/-- What stands against one packet that follows the tag `previous`, if any. -/
def packetGrounds (maxBytes : Nat) (packet : Packet) (previous : Option TimeTag) :
    List (Ground Defect) :=
  [⟨∃ tag ∈ previous, packet.timeTag < tag, .packetsOutOfOrder⟩,
    ⟨packet.data = [], .emptyMessage⟩,
    ⟨maxBytes < packet.data.length, .messageTooLong packet.data.length⟩]

/-- What stands against packets the first of which follows the tag `previous`, packet
by packet. -/
def contentGrounds (maxBytes : Nat) (previous : Option TimeTag) (packets : List Packet) :
    List (Ground Defect) :=
  (packets.zip (previous :: packets.map fun packet => some packet.timeTag)).flatMap
    fun entry => packetGrounds maxBytes entry.1 entry.2

/-- What stands against a store under a configuration. -/
def storeGrounds (config : Config) (store : PacketStore) : List (Ground Defect) :=
  ⟨store.capacity = 0 ∨ config.maxStoreBytes < store.capacity,
      .unsupportedSize store.capacity⟩ ::
    ⟨store.virtualChannel < config.virtualChannels.lowest ∨
        config.virtualChannels.highest < store.virtualChannel,
      .invalidChannel store.virtualChannel⟩ ::
    ⟨∃ range ∈ store.timeRangeRetrieval, range.stop ≤ range.start,
      .invalidRetrievalWindow⟩ ::
    (contentGrounds config.maxMessageBytes.toNat none store.packets ++
      [⟨store.capacity.toNat < Packet.totalSize store.packets, .contentExceedsCapacity⟩])

/-- What stands against an entry; `taken` says that its identifier is in use. -/
def entryGrounds (config : Config) (taken : Prop) (store : PacketStore) :
    List (Ground Defect) :=
  storeGrounds config store ++ [⟨taken, .refused .storeExists⟩]

/-- No ground is that the registry is full. -/
theorem answer_ne_registryFull (config : Config) (taken : Prop) (store : PacketStore) :
    ∀ ground ∈ entryGrounds config taken store,
      ground.answer ≠ .refused .registryFull := by
  have content : ∀ ground ∈ contentGrounds config.maxMessageBytes.toNat none store.packets,
      ground.answer ≠ .refused .registryFull := by
    intro ground listed
    rcases List.mem_flatMap.mp listed with ⟨entry, -, against⟩
    simp only [packetGrounds, List.mem_cons, List.not_mem_nil, or_false] at against
    rcases against with rfl | rfl | rfl <;> nofun
  simp only [entryGrounds, storeGrounds, List.forall_mem_append, List.forall_mem_cons]
  exact ⟨⟨nofun, nofun, nofun, content, nofun, nofun⟩, nofun, nofun⟩

theorem decides_packetDefect? (maxBytes : Nat) (previous : Option TimeTag)
    (packets : List Packet) :
    Decides (contentGrounds maxBytes previous packets)
      (packetDefect? maxBytes previous packets) := by
  induction packets generalizing previous with
  | nil => exact .free
  | cons packet rest ih =>
      have late : (∃ tag ∈ previous, packet.timeTag < tag) ↔
          previous.any (packet.timeTag < ·) = true := by
        cases previous <;> simp
      apply Decides.refusing
      · exact late
      intro _
      apply Decides.refusing
      · exact List.isEmpty_iff.symm
      intro _
      apply Decides.refusing
      · exact Iff.rfl
      intro _
      exact ih (some packet.timeTag)

theorem decides_defect? (config : Config) (store : PacketStore) :
    Decides (storeGrounds config store) (defect? config store) := by
  have range : (∃ range ∈ store.timeRangeRetrieval, range.stop ≤ range.start) ↔
      store.timeRangeRetrieval.any (fun range => range.stop ≤ range.start) = true := by
    cases store.timeRangeRetrieval <;> simp
  have content := decides_packetDefect? config.maxMessageBytes.toNat none store.packets
  have overfull : Decides
      [⟨store.capacity.toNat < Packet.totalSize store.packets,
        Defect.contentExceedsCapacity⟩]
      (if store.capacity.toNat < store.storedBytes then
        some Defect.contentExceedsCapacity
      else none) := by
    rw [store.storedBytes_eq]
    exact .refusal Iff.rfl
  unfold defect?
  apply Decides.refusing
  · simp [Config.unacceptable_size_iff]
  intro _
  apply Decides.refusing
  · simp [VirtualChannels.outside_iff]
  intro _
  apply Decides.refusing
  · exact range
  intro _
  have decides := content.append fun _ => overfull
  cases found : packetDefect? config.maxMessageBytes.toNat none store.packets with
  | some defect => rwa [found] at decides
  | none => rwa [found] at decides

/-! ## Adding entries in turn -/

/-- As long as there is room, an entry is added unless a ground stands against it. -/
theorem exists_decision_addEach (config : Config) {registry : Registry}
    (room : registry.size < registry.limit) (id : StoreId) (store : PacketStore) :
    ∃ decision,
      Decides (entryGrounds config (registry.contains id = true) store) decision ∧
      ∀ rest, addEach config registry ((id, store) :: rest) =
        match decision with
        | some defect => .error (.defective id defect)
        | none => addEach config
            { registry with stores := registry.stores.insert id store } rest := by
  have taken : Decides
      [⟨registry.contains id = true, Defect.refused .storeExists⟩]
      (if registry.contains id then some (Defect.refused .storeExists) else none) :=
    .refusal Iff.rfl
  have notFull : registry.isFull = false := by
    simp [Registry.isFull, room]
  refine ⟨_, (decides_defect? config store).append fun _ => taken, ?_⟩
  intro rest
  rw [addEach]
  cases defect? config store with
  | some defect => rfl
  | none =>
      unfold Registry.create
      cases registry.contains id with
      | true => rfl
      | false => simp [notFull]

/-- A list of entries is added by adding its first part and then the rest. -/
theorem addEach_append (config : Config) (registry : Registry)
    (first second : List (StoreId × PacketStore)) :
    addEach config registry (first ++ second) =
      (addEach config registry first).bind fun reached => addEach config reached second := by
  induction first generalizing registry with
  | nil => rfl
  | cons entry rest ih =>
      rcases entry with ⟨id, store⟩
      rw [List.cons_append, addEach, addEach]
      cases defect? config store with
      | some defect => rfl
      | none =>
          cases registry.create id store with
          | error cause => rfl
          | ok extended => exact ih extended

/-- Entries that are not all added are added up to one against which a ground
stands. -/
theorem exists_of_addEach_eq_error {config : Config} {registry : Registry} {fault : Fault}
    {entries : List (StoreId × PacketStore)}
    (room : registry.size + entries.length ≤ registry.limit)
    (failed : addEach config registry entries = .error fault) :
    ∃ earlier id store later reached defect,
      entries = earlier ++ (id, store) :: later ∧
      addEach config registry earlier = .ok reached ∧
      Decides (entryGrounds config (reached.contains id = true) store) (some defect) ∧
      fault = .defective id defect := by
  induction entries generalizing registry with
  | nil => cases failed
  | cons entry rest ih =>
      -- An entry takes at most one place, so there is room for the rest behind it.
      rcases entry with ⟨id, store⟩
      rw [List.length_cons] at room
      have below : registry.size < registry.limit := by omega
      rcases exists_decision_addEach config below id store with ⟨decision, decides, added⟩
      rw [added] at failed
      cases decision with
      | some defect =>
          cases failed
          exact ⟨[], id, store, rest, registry, defect, rfl, rfl, decides, rfl⟩
      | none =>
          have larger : ({ registry with stores := registry.stores.insert id store } :
              Registry).size ≤ registry.size + 1 :=
            registry.stores.size_insert_le id store
          have restRoom : ({ registry with stores := registry.stores.insert id store } :
              Registry).size + rest.length ≤ registry.limit := by omega
          rcases ih restRoom failed with
            ⟨earlier, other, held, later, reached, defect, rfl, reaches, against, rfl⟩
          refine ⟨(id, store) :: earlier, other, held, later, reached, defect, rfl, ?_,
            against, rfl⟩
          rw [added]
          exact reaches

/-! ## The registry of a snapshot -/

/-- A snapshot that a platform of the given configuration can hold. -/
structure Acceptable (config : Config) (snapshot : Snapshot) : Prop where
  few : snapshot.entries.length ≤ min config.maxStores.toNat Limits.stores
  distinct : (snapshot.entries.map Prod.fst).Nodup
  sound : ∀ entry ∈ snapshot.entries, entry.2.Sound config

/-- The fault of a snapshot: that it lists too many stores, or else the first ground
against the first entry with any.  The identifier of an entry is in use when an entry
before it has the same. -/
inductive FirstFault (config : Config) (snapshot : Snapshot) : Fault → Prop
  | crowded
      (many : min config.maxStores.toNat Limits.stores < snapshot.entries.length) :
      FirstFault config snapshot (.tooManyStores snapshot.entries.length
        (min config.maxStores.toNat Limits.stores))
  | entry {earlier later : List (StoreId × PacketStore)} {id : StoreId}
      {store : PacketStore} {defect : Defect}
      (few : snapshot.entries.length ≤ min config.maxStores.toNat Limits.stores)
      (split : snapshot.entries = earlier ++ (id, store) :: later)
      (distinct : (earlier.map Prod.fst).Nodup)
      (sound : ∀ other ∈ earlier, other.2.Sound config)
      (against : Decides (entryGrounds config (id ∈ earlier.map Prod.fst) store)
        (some defect)) :
      FirstFault config snapshot (.defective id defect)

/-- A registry that holds what a snapshot lists, and gives it back in order. -/
structure Holds (registry : Registry) (snapshot : Snapshot) : Prop where
  get?_iff : ∀ id store,
    registry.get? id = some store ↔ (id, store) ∈ snapshot.entries
  captured : registry.snapshot.entries.Perm snapshot.entries
  ascending : (registry.snapshot.entries.map Prod.fst).Pairwise (· < ·)

variable {config : Config} {snapshot : Snapshot}

theorem holds_of_toRegistry_eq_ok {registry : Registry}
    (restored : snapshot.toRegistry config = .ok registry) : Holds registry snapshot where
  get?_iff _ _ := get?_eq_some_iff_of_toRegistry_eq_ok restored
  captured := by
    have of_ids {entries : List (StoreId × PacketStore)}
        (distinct : (entries.map Prod.fst).Nodup) : entries.Nodup :=
      List.Pairwise.of_map Prod.fst
        (fun _ _ different same => different (congrArg Prod.fst same)) distinct
    apply (List.perm_ext_iff_of_nodup (of_ids registry.ids_nodup)
      (of_ids (toRegistry_eq_ok_iff.mp restored).2.1)).mpr
    rintro ⟨id, store⟩
    rw [← get?_eq_some_iff_of_toRegistry_eq_ok restored]
    exact OrderedMap.mem_entries_iff
  ascending := registry.ids_ascending

theorem contains_insertAll_iff {limit : Nat} {entries : List (StoreId × PacketStore)}
    (distinct : (entries.map Prod.fst).Nodup) (id : StoreId) :
    (Registry.mk limit (OrderedMap.empty.insertAll entries)).contains id = true ↔
      id ∈ entries.map Prod.fst := by
  rw [Registry.contains, Registry.get?, OrderedMap.get?_insertAll distinct,
    OrderedMap.get?_empty, Option.or_none, Option.isSome_iff_ne_none, ne_eq,
    lookup_eq_none_iff_notMem, Decidable.not_not]

theorem toRegistry_eq_error_of_many
    (many : min config.maxStores.toNat Limits.stores < snapshot.entries.length) :
    snapshot.toRegistry config = .error (.tooManyStores snapshot.entries.length
      (min config.maxStores.toNat Limits.stores)) := by
  have crowded : (Registry.empty config.maxStores.toNat).limit < snapshot.entries.length :=
    many
  rw [toRegistry, if_pos crowded]
  rfl

/-- Without too many of them, the entries are added to a registry without stores. -/
theorem toRegistry_eq_addEach
    (few : snapshot.entries.length ≤ min config.maxStores.toNat Limits.stores) :
    snapshot.toRegistry config =
      addEach config (Registry.empty config.maxStores.toNat) snapshot.entries := by
  have notMany : ¬ (Registry.empty config.maxStores.toNat).limit < snapshot.entries.length :=
    Nat.not_lt.mpr few
  rw [toRegistry, if_neg notMany]

/-- What a registry without stores becomes by adding entries, if there is room. -/
theorem addEach_empty_eq_ok_iff {entries : List (StoreId × PacketStore)}
    {reached : Registry}
    (few : entries.length ≤ min config.maxStores.toNat Limits.stores) :
    addEach config (Registry.empty config.maxStores.toNat) entries = .ok reached ↔
      (entries.map Prod.fst).Nodup ∧ (∀ entry ∈ entries, entry.2.Sound config) ∧
        reached = ⟨min config.maxStores.toNat Limits.stores,
          OrderedMap.empty.insertAll entries⟩ := by
  have same : toRegistry config ⟨entries⟩ = _ := toRegistry_eq_addEach few
  rw [← same, toRegistry_eq_ok_iff, and_iff_right few]

theorem firstFault_of_toRegistry_eq_error {fault : Fault}
    (failed : snapshot.toRegistry config = .error fault) :
    FirstFault config snapshot fault := by
  by_cases many : min config.maxStores.toNat Limits.stores < snapshot.entries.length
  · rw [toRegistry_eq_error_of_many many] at failed
    cases failed
    exact .crowded many
  · have few := Nat.not_lt.mp many
    rw [toRegistry_eq_addEach few] at failed
    have room : (Registry.empty config.maxStores.toNat).size + snapshot.entries.length ≤
        (Registry.empty config.maxStores.toNat).limit :=
      Nat.le_trans (Nat.le_of_eq (Nat.zero_add _)) few
    rcases exists_of_addEach_eq_error room failed with
      ⟨earlier, id, store, later, reached, defect, split, reaches, against, rfl⟩
    have fewer : earlier.length ≤ min config.maxStores.toNat Limits.stores := by
      rw [split, List.length_append] at few
      omega
    rcases (addEach_empty_eq_ok_iff fewer).mp reaches with ⟨distinct, sound, rfl⟩
    rw [propext (contains_insertAll_iff distinct id)] at against
    exact .entry few split distinct sound against

theorem FirstFault.toRegistry_eq_error {fault : Fault}
    (first : FirstFault config snapshot fault) :
    snapshot.toRegistry config = .error fault := by
  cases first with
  | crowded many => exact toRegistry_eq_error_of_many many
  | @entry earlier later id store defect few split distinct sound against =>
      have fewer : earlier.length < min config.maxStores.toNat Limits.stores := by
        rw [split, List.length_append, List.length_cons] at few
        omega
      have reaches := (addEach_empty_eq_ok_iff (Nat.le_of_lt fewer)).mpr
        ⟨distinct, sound, rfl⟩
      have most := OrderedMap.empty.size_insertAll_le earlier
      have room : (Registry.mk (min config.maxStores.toNat Limits.stores)
          (OrderedMap.empty.insertAll earlier)).size <
            min config.maxStores.toNat Limits.stores :=
        Nat.lt_of_le_of_lt (Nat.le_trans most (Nat.le_of_eq (Nat.zero_add _))) fewer
      rcases exists_decision_addEach config room id store with ⟨decision, decides, added⟩
      rw [propext (contains_insertAll_iff distinct id)] at decides
      cases decides.unique against
      rw [toRegistry_eq_addEach few, split, addEach_append, reaches]
      exact added later

theorem toRegistry_eq_error_iff {fault : Fault} :
    snapshot.toRegistry config = .error fault ↔ FirstFault config snapshot fault :=
  ⟨firstFault_of_toRegistry_eq_error, FirstFault.toRegistry_eq_error⟩

theorem FirstFault.ne_registryFull {fault : Fault}
    (first : FirstFault config snapshot fault) (id : StoreId) :
    fault ≠ .defective id (.refused .registryFull) := by
  rintro rfl
  cases first with
  | entry _ _ _ _ against =>
      rcases against.exists_mem _ rfl with ⟨ground, listed, -, full⟩
      exact answer_ne_registryFull config _ _ ground listed full

theorem exists_toRegistry_eq_ok_iff :
    (∃ registry, snapshot.toRegistry config = .ok registry) ↔
      Acceptable config snapshot := by
  constructor
  · rintro ⟨registry, restored⟩
    rcases toRegistry_eq_ok_iff.mp restored with ⟨few, distinct, sound, -⟩
    exact ⟨few, distinct, sound⟩
  · rintro ⟨few, distinct, sound⟩
    exact ⟨_, toRegistry_eq_ok_iff.mpr ⟨few, distinct, sound, rfl⟩⟩

/-- Exactly the acceptable snapshots become registries, which hold what they list.  Any
other snapshot is answered by its first fault, which is never that the registry is full,
and a service that is to restore it stays as it was. -/
theorem acceptance_is_exact (config : Config) (snapshot : Snapshot) :
    ((∃ registry, snapshot.toRegistry config = .ok registry) ↔
      Acceptable config snapshot) ∧
    (∀ registry, snapshot.toRegistry config = .ok registry →
      registry.limit = min config.maxStores.toNat Limits.stores ∧
      Holds registry snapshot) ∧
    (∀ fault, snapshot.toRegistry config = .error fault ↔
      FirstFault config snapshot fault) ∧
    (∀ id, ¬ FirstFault config snapshot (.defective id (.refused .registryFull))) ∧
    ∀ fault registry router clock, FirstFault config snapshot fault →
      Service.operate ⟨config, registry, router, clock⟩ (.restore snapshot) =
        (⟨config, registry, router, clock⟩, .restored (some fault)) := by
  refine ⟨exists_toRegistry_eq_ok_iff, ?_, fun _ => toRegistry_eq_error_iff, ?_, ?_⟩
  · intro registry restored
    refine ⟨?_, holds_of_toRegistry_eq_ok restored⟩
    rcases toRegistry_eq_ok_iff.mp restored with ⟨-, -, -, rfl⟩
    rfl
  · intro id full
    exact full.ne_registryFull id rfl
  · intro fault registry router clock first
    simp only [Service.operate, Service.restore, first.toRegistry_eq_error]

/-- The second entry repeats an identifier, and the size of the third is not looked at. -/
example :
    let id : StoreId := ⟨"hk", by decide, by decide⟩
    let store := PacketStore.create 10 .circular 1
    let empty := PacketStore.create 0 .circular 1
    toRegistry Config.standard ⟨[(id, store), (id, store), (id, empty)]⟩ =
      .error (.defective id (.refused .storeExists)) :=
  rfl

end OnboardStorage.Snapshot
