import OnboardStorage.Proofs.ByteOrder
import OnboardStorage.Proofs.SlotTable

/-!
# The registry as a bounded finite map

What a registry holds is described by a partial map from identifiers to stores and by the
number of stores that it may hold at most.  The description knows of no order and of no
place at which a store is kept: a call changes the map at one identifier, or empties it,
or leaves it as it is.

A registry follows this description under any calls, and a table of slots follows the
registry.  So it cannot be seen that removing a store moves another one, that the slots
are filled in the order of creation, or that two stores are found in one pass.
-/

namespace OnboardStorage

namespace Registry

/-! ## Calls -/

/-- A call that may change what is held. -/
inductive Call where
  | create (id : StoreId) (store : PacketStore)
  | remove (id : StoreId)
  | clear
  /-- Change a store in place. -/
  | write (id : StoreId) (change : PacketStore → PacketStore)
  /-- Change the second of two stores in place, in view of the first. -/
  | writeThrough (source destination : StoreId)
      (change : PacketStore → PacketStore → PacketStore)

/-- What a call is answered; a store is shown as it was before the call. -/
inductive Reply where
  | created (refusal : Option Rejection)
  | found (store : Option PacketStore)
  | foundBoth (stores : Option (PacketStore × PacketStore))
  | cleared
  deriving DecidableEq

/-- The registry after a call, and what the call is answered. -/
def call (registry : Registry) : Call → Registry × Reply
  | .create id store =>
      match registry.create id store with
      | .ok extended => (extended, .created none)
      | .error cause => (registry, .created (some cause))
  | .remove id => (registry.remove id, .found (registry.get? id))
  | .clear => (registry.clear, .cleared)
  | .write id change => (registry.modify id change, .found (registry.get? id))
  | .writeThrough source destination change =>
      match registry.sourceAndDestination? source destination with
      | some stores =>
          (registry.modify destination fun _ => change stores.1 stores.2,
            .foundBoth (some stores))
      | none => (registry, .foundBoth none)

/-- What a call is answered and leads to by the partial map of the stores and the most
of them that there may be.  A known identifier is reported before a full registry. -/
noncomputable def describe (most : Nat) (map : PartialMap StoreId PacketStore) :
    Call → PartialMap StoreId PacketStore × Reply
  | .create id store =>
      if (map id).isSome then (map, .created (some .storeExists))
      else if map.count = most then (map, .created (some .registryFull))
      else (Function.update map id (some store), .created none)
  | .remove id => (Function.update map id none, .found (map id))
  | .clear => (PartialMap.empty, .cleared)
  | .write id change =>
      (Function.update map id ((map id).map change), .found (map id))
  | .writeThrough source destination change =>
      if source = destination then (map, .foundBoth none)
      else match map source, map destination with
        | some fromStore, some toStore =>
            (Function.update map destination (some (change fromStore toStore)),
              .foundBoth (some (fromStore, toStore)))
        | _, _ => (map, .foundBoth none)

/-! ## A registry that holds what is described -/

/-- A registry holds what a partial map describes, and no more than `most` stores. -/
structure Keeps (registry : Registry) (most : Nat)
    (map : PartialMap StoreId PacketStore) : Prop where
  limit : registry.limit = most
  look : registry.get? = map
  bounded : registry.size ≤ most

theorem keeps_empty (limit : Nat) :
    (empty limit).Keeps (min limit Limits.stores) PartialMap.empty :=
  ⟨rfl, rfl, Nat.zero_le _⟩

namespace Keeps

variable {registry : Registry} {most : Nat} {map : PartialMap StoreId PacketStore}

theorem count_eq (keeps : registry.Keeps most map) : map.count = registry.size := by
  rw [← keeps.look]
  exact registry.stores.count_get?

theorem contains_eq (keeps : registry.Keeps most map) (id : StoreId) :
    registry.contains id = (map id).isSome := by
  rw [contains, keeps.look]

theorem isFull_iff (keeps : registry.Keeps most map) :
    registry.isFull = true ↔ map.count = most := by
  have bounded := keeps.bounded
  rw [keeps.count_eq, isFull, keeps.limit, decide_eq_true_iff]
  omega

/-! ### Creating a store -/

theorem create_of_present (keeps : registry.Keeps most map) {id : StoreId}
    (present : (map id).isSome) (store : PacketStore) :
    registry.create id store = .error .storeExists := by
  rw [create, if_pos ((keeps.contains_eq id).trans present)]

theorem create_of_full (keeps : registry.Keeps most map) {id : StoreId}
    (absent : map id = none) (full : map.count = most) (store : PacketStore) :
    registry.create id store = .error .registryFull := by
  have uncontained : ¬ registry.contains id = true := by
    rw [keeps.contains_eq, absent]
    exact Bool.false_ne_true
  rw [create, if_neg uncontained, if_pos (keeps.isFull_iff.mpr full)]

theorem exists_create_of_free (keeps : registry.Keeps most map) {id : StoreId}
    (absent : map id = none) (free : map.count ≠ most) (store : PacketStore) :
    ∃ extended, registry.create id store = .ok extended ∧
      extended.Keeps most (Function.update map id (some store)) := by
  have bounded := keeps.bounded
  have count_eq := keeps.count_eq
  have limit_eq := keeps.limit
  have missing : registry.get? id = none := (congrFun keeps.look id).trans absent
  have room : registry.size < registry.limit := by omega
  refine ⟨_, create_eq_ok_iff.mpr ⟨missing, room, rfl⟩, limit_eq, ?_, ?_⟩
  · rw [← keeps.look]
    exact registry.stores.get?_insert_eq_update id store
  · have grown := registry.stores.size_insert_le id store
    simp only [size] at room grown ⊢
    omega

/-- The three outcomes of a creation: the identifier is known, or there is no room, or
the store is added. -/
theorem create_cases (keeps : registry.Keeps most map) (id : StoreId) (store : PacketStore) :
    ((map id).isSome ∧ registry.create id store = .error .storeExists) ∨
      (map id = none ∧ map.count = most ∧
        registry.create id store = .error .registryFull) ∨
      (map id = none ∧ map.count ≠ most ∧
        ∃ extended, registry.create id store = .ok extended ∧
          extended.Keeps most (Function.update map id (some store))) := by
  by_cases present : (map id).isSome = true
  · exact .inl ⟨present, keeps.create_of_present present store⟩
  · have absent : map id = none := Option.not_isSome_iff_eq_none.mp present
    by_cases full : map.count = most
    · exact .inr (.inl ⟨absent, full, keeps.create_of_full absent full store⟩)
    · exact .inr (.inr ⟨absent, full, keeps.exists_create_of_free absent full store⟩)

/-! ### Other changes -/

theorem remove (keeps : registry.Keeps most map) (id : StoreId) :
    (registry.remove id).Keeps most (Function.update map id none) where
  limit := keeps.limit
  look := by
    rw [← keeps.look]
    exact registry.stores.get?_erase_eq_update id
  bounded := (registry.size_remove_le id).trans keeps.bounded

theorem clear (keeps : registry.Keeps most map) :
    registry.clear.Keeps most PartialMap.empty :=
  ⟨keeps.limit, rfl, Nat.zero_le _⟩

theorem modify (keeps : registry.Keeps most map) (id : StoreId)
    (change : PacketStore → PacketStore) :
    (registry.modify id change).Keeps most
      (Function.update map id ((map id).map change)) where
  limit := keeps.limit
  look := by
    rw [← keeps.look]
    exact registry.stores.get?_modify_eq_update id change
  bounded := (registry.size_modify id change).le.trans keeps.bounded

theorem sourceAndDestination?_iff (keeps : registry.Keeps most map)
    {source destination : StoreId} {stores : PacketStore × PacketStore} :
    registry.sourceAndDestination? source destination = some stores ↔
      source ≠ destination ∧ map source = some stores.1 ∧
        map destination = some stores.2 := by
  rw [sourceAndDestination?_eq_some_iff, keeps.look]

/-- A call keeps what is held in accordance with the description, and is answered by it. -/
theorem call (keeps : registry.Keeps most map) (call : Call) :
    (registry.call call).1.Keeps most (describe most map call).1 ∧
      (registry.call call).2 = (describe most map call).2 := by
  cases call with
  | create id store =>
      simp only [Registry.call, describe]
      rcases keeps.create_cases id store with
        ⟨present, refused⟩ | ⟨absent, full, refused⟩ | ⟨absent, free, extended, created, more⟩
      · rw [refused, if_pos present]
        exact ⟨keeps, rfl⟩
      · rw [refused, absent, Option.isSome_none, if_neg Bool.false_ne_true, if_pos full]
        exact ⟨keeps, rfl⟩
      · rw [created, absent, Option.isSome_none, if_neg Bool.false_ne_true, if_neg free]
        exact ⟨more, rfl⟩
  | remove id => exact ⟨keeps.remove id, congrArg Reply.found (congrFun keeps.look id)⟩
  | clear => exact ⟨keeps.clear, rfl⟩
  | write id change =>
      exact ⟨keeps.modify id change, congrArg Reply.found (congrFun keeps.look id)⟩
  | writeThrough source destination change =>
      have modified (fromStore toStore : PacketStore)
          (held : map destination = some toStore) :
          (registry.modify destination fun _ => change fromStore toStore).Keeps most
            (Function.update map destination (some (change fromStore toStore))) := by
        have keepsWritten := keeps.modify destination fun _ => change fromStore toStore
        rwa [held] at keepsWritten
      simp only [Registry.call, describe, sourceAndDestination?, keeps.look]
      by_cases same : source = destination
      · rw [if_pos same, if_pos same]
        exact ⟨keeps, rfl⟩
      · rw [if_neg same, if_neg same]
        cases map source with
        | none => exact ⟨keeps, rfl⟩
        | some fromStore =>
            cases held : map destination with
            | none => exact ⟨keeps, rfl⟩
            | some toStore => exact ⟨modified fromStore toStore held, rfl⟩

theorem callsInTurn (keeps : registry.Keeps most map) (calls : List Call) :
    (inTurn Registry.call registry calls).1.Keeps most
        (inTurn (describe most) map calls).1 ∧
      (inTurn Registry.call registry calls).2 = (inTurn (describe most) map calls).2 :=
  inTurn_related (fun (registry : Registry) map => registry.Keeps most map)
    (fun _ _ call keeps => keeps.call call) keeps calls

end Keeps

/-- What a registry shows of a bounded map, and how it can change. -/
structure IsBoundedMap (registry : Registry) (most : Nat)
    (map : PartialMap StoreId PacketStore) : Prop where
  limit : registry.limit = most
  look : registry.get? = map
  size : registry.size = map.count
  bounded : map.count ≤ most
  full : registry.isFull = true ↔ map.count = most
  ascending : registry.ids.Pairwise (· < ·)
  inByteOrder : (registry.ids.map StoreId.bytes).Pairwise BytesBefore
  listed : ∀ id, id ∈ registry.ids ↔ (map id).isSome
  existing : ∀ id store,
    registry.create id store = .error .storeExists ↔ (map id).isSome
  noRoom : ∀ id store,
    registry.create id store = .error .registryFull ↔ map id = none ∧ map.count = most
  created : ∀ id store, map id = none → map.count ≠ most →
    ∃ extended, registry.create id store = .ok extended ∧
      extended.get? = Function.update map id (some store)
  removed : ∀ id, (registry.remove id).get? = Function.update map id none
  written : ∀ id change,
    (registry.modify id change).get? = Function.update map id ((map id).map change)
  bothFound : ∀ source destination stores,
    registry.sourceAndDestination? source destination = some stores ↔
      source ≠ destination ∧ map source = some stores.1 ∧
        map destination = some stores.2

theorem Keeps.isBoundedMap {registry : Registry} {most : Nat}
    {map : PartialMap StoreId PacketStore} (keeps : registry.Keeps most map) :
    registry.IsBoundedMap most map := by
  constructor
  case limit => exact keeps.limit
  case look => exact keeps.look
  case size => exact keeps.count_eq.symm
  case bounded => exact keeps.count_eq.le.trans keeps.bounded
  case full => exact keeps.isFull_iff
  case ascending => exact registry.ids_ascending
  case inByteOrder =>
    exact List.pairwise_map.mpr (registry.ids_ascending.imp StoreId.bytesBefore_of_lt)
  case listed =>
    intro id
    rw [mem_ids_iff, keeps.contains_eq]
  case existing =>
    intro id store
    rcases keeps.create_cases id store with
      ⟨present, refused⟩ | ⟨absent, -, refused⟩ | ⟨absent, -, _, created, -⟩
    · simp [present, refused]
    · simp [absent, refused]
    · simp [absent, created]
  case noRoom =>
    intro id store
    rcases keeps.create_cases id store with
      ⟨present, refused⟩ | ⟨absent, full, refused⟩ | ⟨absent, free, _, created, -⟩
    · simp [Option.isSome_iff_ne_none.mp present, refused]
    · simp [absent, full, refused]
    · simp [free, created]
  case created =>
    intro id store absent free
    rcases keeps.exists_create_of_free absent free store with ⟨extended, created, more⟩
    exact ⟨extended, created, more.look⟩
  case removed => exact fun id => (keeps.remove id).look
  case written => exact fun id change => (keeps.modify id change).look
  case bothFound => exact fun source destination stores => keeps.sourceAndDestination?_iff

end Registry

/-! ## Slots -/

namespace SlotTable

/-- The table after a call, and what the call is answered. -/
def call (table : SlotTable) : Registry.Call → SlotTable × Registry.Reply
  | .create id store =>
      match table.create id store with
      | .ok extended => (extended, .created none)
      | .error cause => (table, .created (some cause))
  | .remove id => (table.remove id, .found (table.get? id))
  | .clear => (table.clear, .cleared)
  | .write id change => (table.modify id change, .found (table.get? id))
  | .writeThrough source destination change =>
      match table.sourceAndDestination? source destination with
      | some stores =>
          (table.modify destination fun _ => change stores.1 stores.2,
            .foundBoth (some stores))
      | none => (table, .foundBoth none)

/-- A table and the registry that it stands for are changed alike and answer alike. -/
theorem registry_call (table : SlotTable) (call : Registry.Call) :
    (table.call call).1.registry = (table.registry.call call).1 ∧
      (table.call call).2 = (table.registry.call call).2 := by
  have found (id : StoreId) : table.get? id = table.registry.get? id :=
    (table.get?_registry id).symm
  cases call with
  | create id store =>
      simp only [SlotTable.call, Registry.call, ← map_registry_create]
      cases table.create id store with
      | ok extended => exact ⟨rfl, rfl⟩
      | error cause => exact ⟨rfl, rfl⟩
  | remove id => exact ⟨table.registry_remove id, congrArg Registry.Reply.found (found id)⟩
  | clear => exact ⟨table.registry_clear, rfl⟩
  | write id change =>
      exact ⟨table.registry_modify id change, congrArg Registry.Reply.found (found id)⟩
  | writeThrough source destination change =>
      simp only [SlotTable.call, Registry.call, ← sourceAndDestination?_eq]
      cases table.sourceAndDestination? source destination with
      | some stores => exact ⟨table.registry_modify destination _, rfl⟩
      | none => exact ⟨rfl, rfl⟩

theorem registry_callsInTurn (table : SlotTable) (calls : List Registry.Call) :
    (inTurn SlotTable.call table calls).1.registry =
        (inTurn Registry.call table.registry calls).1 ∧
      (inTurn SlotTable.call table calls).2 =
        (inTurn Registry.call table.registry calls).2 := by
  apply inTurn_related (fun (table : SlotTable) registry => table.registry = registry) _ rfl
  rintro table _ call rfl
  exact table.registry_call call

/-- A table shows of its slots what a registry shows. -/
structure ShowsAs (table : SlotTable) (registry : Registry) : Prop where
  look : table.get? = registry.get?
  size : table.size = registry.size
  full : table.isFull = registry.isFull
  ids : table.ids = registry.ids
  bothFound : table.sourceAndDestination? = registry.sourceAndDestination?

theorem showsAs_registry (table : SlotTable) : table.ShowsAs table.registry where
  look := funext fun id => (table.get?_registry id).symm
  size := table.size_eq
  full := table.isFull_eq
  ids := table.ids_eq
  bothFound := funext fun source => funext fun destination =>
    table.sourceAndDestination?_eq source destination

end SlotTable

namespace Registry

/-- A registry is a bounded finite map.  Whatever calls are made on a new one, they are
answered and change what is held as they would for a partial map of at most `limit`
stores, and no more than sixteen of them: creation is refused for an identifier that is
present, even when no further store has room, and then for want of room; all else changes
one store or all of them.  The same calls on slots, where the last store moves to the
place of a removed one, are answered alike and show the same. -/
theorem registry_is_a_bounded_map (limit : Nat) (calls : List Call) :
    let most := min limit 16
    let described := inTurn (describe most) PartialMap.empty calls
    let kept := inTurn Registry.call (Registry.empty limit) calls
    let slots := inTurn SlotTable.call (SlotTable.empty limit) calls
    kept.2 = described.2 ∧ slots.2 = described.2 ∧
      kept.1.IsBoundedMap most described.1 ∧
      slots.1.ShowsAs kept.1 ∧ slots.1.slots.length ≤ 16 := by
  intro most described kept slots
  obtain ⟨keeps, answers⟩ := (keeps_empty limit).callsInTurn calls
  obtain ⟨stands, sameAnswers⟩ := (SlotTable.empty limit).registry_callsInTurn calls
  have shows : slots.1.ShowsAs kept.1 := stands ▸ slots.1.showsAs_registry
  have fits : slots.1.slots.length ≤ most := shows.size.le.trans keeps.bounded
  exact ⟨answers, sameAnswers.trans answers, keeps.isBoundedMap, shows,
    fits.trans (Nat.min_le_right _ _)⟩

/-- A full registry reports a known identifier as known.  When the first of three slots
is vacated the last store moves there; the two stores that are left are then found in the
other order, and the write reaches the right one. -/
theorem full_registry_knows_its_stores :
    let gone : StoreId := ⟨"gone", by decide, by decide⟩
    let events : StoreId := ⟨"events", by decide, by decide⟩
    let hk : StoreId := ⟨"hk", by decide, by decide⟩
    let late : StoreId := ⟨"late", by decide, by decide⟩
    let small := PacketStore.create 8 .bounded 1
    let large := PacketStore.create 64 .circular 2
    let calls : List Call :=
      [.create gone small, .create events small, .create hk large, .create events large,
        .create late small, .remove gone, .writeThrough hk events fun source _ => source]
    let described := inTurn (describe 3) PartialMap.empty calls
    let kept := inTurn Registry.call (Registry.empty 3) calls
    let slots := inTurn SlotTable.call (SlotTable.empty 3) calls
    slots.1.slots = [(hk, large), (events, large)] ∧
      described.2 =
        [.created none, .created none, .created none, .created (some .storeExists),
          .created (some .registryFull), .found (some small),
          .foundBoth (some (large, small))] ∧
      kept.1.IsBoundedMap 3 described.1 ∧ slots.1.ShowsAs kept.1 := by
  intro gone events hk late small large calls described kept slots
  rcases registry_is_a_bounded_map 3 calls with ⟨answers, -, bounded, shows, -⟩
  exact ⟨by decide +kernel, answers.symm.trans (by decide +kernel), bounded, shows⟩

end Registry

end OnboardStorage
