import OnboardStorage.Proofs.FiniteMap
import OnboardStorage.Proofs.Soundness.Snapshot

/-!
# Stores kept in slots

A platform keeps its stores in a row of slots.  A new store takes the slot behind the
last one, and the store of the last slot moves to the place of one that is removed;
so the order of the slots depends on everything that has happened to the table, and a
table that is rebuilt from a snapshot has another order than the one it was taken of.

A table of slots stands for a registry, which has no such order.  Everything that a
table can be asked for, and every change of it, is determined by the registry that it
stands for; two tables of one registry cannot be told apart.
-/

namespace OnboardStorage

/-! ## What is shown of stores -/

namespace Registry

/-- What is shown of the given stores, in the order given; a missing one is passed
over. -/
def listing {α : Type} (registry : Registry) (shown : PacketStore → StoreId → α)
    (stores : List StoreId) : List α :=
  stores.filterMap fun id => (registry.get? id).map (shown · id)

/-- All stores are shown as the entries of the registry. -/
theorem listing_ids {α : Type} (registry : Registry) (shown : PacketStore → StoreId → α) :
    registry.listing shown registry.ids =
      registry.stores.entries.map fun entry => shown entry.2 entry.1 := by
  have found : ∀ entry ∈ registry.stores.entries,
      (registry.get? entry.1).map (shown · entry.1) = some (shown entry.2 entry.1) := by
    intro entry member
    rw [show registry.get? entry.1 = some entry.2 from OrderedMap.mem_entries_iff.mp member]
    rfl
  rw [listing, ids, OrderedMap.keys, List.filterMap_map, ← List.filterMap_eq_map]
  exact List.filterMap_congr found

end Registry

/-- Stores in slots, under distinct identifiers, and how many there may be. -/
structure SlotTable where
  limit : Nat
  slots : List (StoreId × PacketStore)
  distinct : (slots.map Prod.fst).Nodup

namespace SlotTable

/-! ## Looking at the slots -/

/-- The store of the first slot of `id`. -/
def get? (table : SlotTable) (id : StoreId) : Option PacketStore :=
  table.slots.lookup id

/-- Number of stores. -/
def size (table : SlotTable) : Nat :=
  table.slots.length

/-- Whether no further store can be added. -/
def isFull (table : SlotTable) : Bool :=
  table.limit ≤ table.size

/-- Identifiers of all stores, sorted. -/
def ids (table : SlotTable) : List StoreId :=
  (table.slots.map Prod.fst).mergeSort fun left right => !(right < left)

/-- What is shown of the given stores: each is looked up, and a missing one is passed
over. -/
def listing {α : Type} (table : SlotTable) (shown : PacketStore → StoreId → α)
    (stores : List StoreId) : List α :=
  stores.filterMap fun id => (table.get? id).map (shown · id)

/-- The stores of two identifiers that are not the same, found in one pass. -/
def sourceAndDestination? (table : SlotTable) (source destination : StoreId) :
    Option (PacketStore × PacketStore) :=
  if source = destination then none
  else
    let found := table.slots.foldl
      (fun (found : Option PacketStore × Option PacketStore) slot =>
        if slot.1 = source then (some slot.2, found.2)
        else if slot.1 = destination then (found.1, some slot.2)
        else found)
      (none, none)
    match found with
    | (some fromStore, some toStore) => some (fromStore, toStore)
    | _ => none

/-- The stores in the order of their identifiers. -/
def snapshot (table : SlotTable) : Snapshot :=
  ⟨table.listing (fun store id => (id, store)) table.ids⟩

/-! ## Changing the slots -/

/-- A table without stores; a limit above the ceiling is lowered to it. -/
def empty (limit : Nat) : SlotTable :=
  ⟨min limit Limits.stores, [], List.nodup_nil⟩

/-- Add a store under a new identifier, behind the last slot. -/
def create (table : SlotTable) (id : StoreId) (store : PacketStore) :
    Except Rejection SlotTable :=
  match absent : table.get? id with
  | some _ => .error .storeExists
  | none =>
      if table.isFull then .error .registryFull
      else .ok {
        limit := table.limit
        slots := table.slots ++ [(id, store)]
        distinct := by
          have fresh := lookup_eq_none_iff_notMem.mp absent
          rw [List.map_append, List.nodup_append]
          refine ⟨table.distinct, by simp, ?_⟩
          rintro other listed _ isNew rfl
          rw [List.map_singleton, List.mem_singleton] at isNew
          rw [isNew] at listed
          exact fresh listed }

/-- The slots without that of `id`: the store of the last slot moves there. -/
def vacate (id : StoreId) (slots : List (StoreId × PacketStore)) :
    List (StoreId × PacketStore) :=
  match slots.getLast? with
  | none => []
  | some last => slots.dropLast.map fun slot => if slot.1 = id then last else slot

theorem vacate_eq (id : StoreId) (slots : List (StoreId × PacketStore)) :
    vacate id slots = Slots.vacate id slots := by
  unfold vacate Slots.vacate
  cases slots.getLast? <;> rfl

theorem vacate_perm {id : StoreId} {slots : List (StoreId × PacketStore)}
    (distinct : (slots.map Prod.fst).Nodup) (member : id ∈ slots.map Prod.fst) :
    (vacate id slots).Perm (slots.filter fun slot => slot.1 ≠ id) := by
  rw [vacate_eq]
  exact Slots.vacate_perm distinct member

/-- Remove the store of `id`, if there is one. -/
def remove (table : SlotTable) (id : StoreId) : SlotTable :=
  if present : id ∈ table.slots.map Prod.fst then {
    limit := table.limit
    slots := vacate id table.slots
    distinct := by
      have perm := (vacate_perm table.distinct present).map Prod.fst
      rw [perm.nodup_iff]
      exact table.distinct.sublist (List.filter_sublist.map _) }
  else table

/-- Change the store of `id` in its slot. -/
def modify (table : SlotTable) (id : StoreId) (change : PacketStore → PacketStore) :
    SlotTable where
  limit := table.limit
  slots := table.slots.map fun slot =>
    if slot.1 = id then (slot.1, change slot.2) else slot
  distinct := by
    have same : (table.slots.map fun slot =>
        if slot.1 = id then (slot.1, change slot.2) else slot).map Prod.fst =
          table.slots.map Prod.fst := by
      rw [List.map_map]
      apply List.map_congr_left
      intro slot _
      simp only [Function.comp_apply]
      split <;> rfl
    rw [same]
    exact table.distinct

/-- Empty every slot. -/
def clear (table : SlotTable) : SlotTable :=
  ⟨table.limit, [], List.nodup_nil⟩

/-- Add the entries of a snapshot in turn, up to the first one that is defective. -/
def addEach (config : Config) (table : SlotTable) :
    List (StoreId × PacketStore) → Except Snapshot.Fault SlotTable
  | [] => .ok table
  | (id, store) :: rest =>
      match Snapshot.defect? config store with
      | some defect => .error (.defective id defect)
      | none =>
          match table.create id store with
          | .error cause => .error (.defective id (.refused cause))
          | .ok extended => addEach config extended rest

/-- The table that a snapshot describes, if a platform of the given configuration
could hold it. -/
def ofSnapshot (config : Config) (snapshot : Snapshot) :
    Except Snapshot.Fault SlotTable :=
  let fresh := empty config.maxStores.toNat
  if fresh.limit < snapshot.entries.length then
    .error (.tooManyStores snapshot.entries.length fresh.limit)
  else addEach config fresh snapshot.entries

/-! ## What a table stands for -/

/-- What stands for a result comes from one. -/
theorem exists_of_map_eq_ok {ε α β : Type} {outcome : Except ε α} {standsFor : α → β}
    {image : β} (same : outcome.map standsFor = .ok image) :
    ∃ result, outcome = .ok result ∧ standsFor result = image := by
  cases outcome with
  | error fault => cases same
  | ok result => exact ⟨result, rfl, Except.ok.inj same⟩

/-- The registry of the same stores. -/
def registry (table : SlotTable) : Registry :=
  ⟨table.limit, OrderedMap.empty.insertAll table.slots⟩

@[simp]
theorem get?_registry (table : SlotTable) (id : StoreId) :
    table.registry.get? id = table.get? id :=
  Slots.get?_ordered table.distinct id

/-- A table stands for a registry of the same limit and look-ups. -/
theorem registry_eq_iff {table : SlotTable} {registry : Registry} :
    table.registry = registry ↔
      table.limit = registry.limit ∧ ∀ id, table.get? id = registry.get? id := by
  constructor
  · rintro rfl
    exact ⟨rfl, fun id => (table.get?_registry id).symm⟩
  · rintro ⟨limit_eq, look_up⟩
    apply Registry.ext_get? limit_eq
    intro id
    exact (table.get?_registry id).trans (look_up id)

/-- The slots are the entries of the registry, in some order. -/
theorem slots_perm (table : SlotTable) :
    table.slots.Perm table.registry.stores.entries :=
  Slots.perm_entries table.distinct

/-! ## What can be seen of a table -/

theorem size_eq (table : SlotTable) : table.size = table.registry.size :=
  table.slots_perm.length_eq

theorem isFull_eq (table : SlotTable) : table.isFull = table.registry.isFull := by
  rw [isFull, size_eq]
  rfl

/-- Sorting leaves nothing of the order of the slots. -/
theorem ids_eq (table : SlotTable) : table.ids = table.registry.ids :=
  Slots.mergeSort_eq_of_perm (table.slots_perm.map Prod.fst)
    table.registry.stores.keys_ascending

theorem listing_eq {α : Type} (table : SlotTable) (shown : PacketStore → StoreId → α)
    (stores : List StoreId) :
    table.listing shown stores = table.registry.listing shown stores := by
  simp only [listing, Registry.listing, get?_registry]

theorem snapshot_eq (table : SlotTable) : table.snapshot = table.registry.snapshot := by
  rw [snapshot, listing_eq, ids_eq, Registry.listing_ids]
  exact congrArg Snapshot.mk (List.map_id' _)

theorem foldl_lookup {source destination : StoreId} (different : source ≠ destination)
    {slots : List (StoreId × PacketStore)} (distinct : (slots.map Prod.fst).Nodup)
    (found : Option PacketStore × Option PacketStore) :
    slots.foldl
      (fun (found : Option PacketStore × Option PacketStore) slot =>
        if slot.1 = source then (some slot.2, found.2)
        else if slot.1 = destination then (found.1, some slot.2)
        else found)
      found =
      ((slots.lookup source).or found.1, (slots.lookup destination).or found.2) := by
  induction slots generalizing found with
  | nil => rfl
  | cons first rest ih =>
      rw [List.map_cons, List.nodup_cons] at distinct
      rw [List.foldl_cons, ih distinct.2]
      by_cases isSource : first.1 = source
      · have fresh : rest.lookup source = none :=
          lookup_eq_none_iff_notMem.mpr (isSource ▸ distinct.1)
        have other : first.1 ≠ destination := fun isDestination =>
          different (isSource.symm.trans isDestination)
        simp [lookup_cons_ite, isSource, fresh, different]
      · by_cases isDestination : first.1 = destination
        · have fresh : rest.lookup destination = none :=
            lookup_eq_none_iff_notMem.mpr (isDestination ▸ distinct.1)
          simp [lookup_cons_ite, isDestination, fresh, Ne.symm different]
        · simp [lookup_cons_ite, isSource, isDestination]

theorem sourceAndDestination?_eq (table : SlotTable) (source destination : StoreId) :
    table.sourceAndDestination? source destination =
      table.registry.sourceAndDestination? source destination := by
  unfold sourceAndDestination? Registry.sourceAndDestination?
  by_cases same : source = destination
  · rw [if_pos same, if_pos same]
  · rw [if_neg same, if_neg same]
    simp only [foldl_lookup same table.distinct, Option.or_none, get?_registry, get?]
    cases table.slots.lookup source <;> cases table.slots.lookup destination <;> rfl

/-! ## Changes of a table -/

theorem registry_empty (limit : Nat) : (empty limit).registry = Registry.empty limit :=
  rfl

theorem registry_clear (table : SlotTable) : table.clear.registry = table.registry.clear :=
  rfl

theorem map_registry_create (table : SlotTable) (id : StoreId) (store : PacketStore) :
    (table.create id store).map registry = table.registry.create id store := by
  unfold create
  split
  · rename_i held found
    have contained : table.registry.contains id = true := by
      rw [Registry.contains, get?_registry, found]
      rfl
    rw [Registry.create, if_pos contained]
    rfl
  · rename_i absent
    have uncontained : ¬ table.registry.contains id = true := by
      rw [Registry.contains, get?_registry, absent]
      exact Bool.false_ne_true
    rw [Registry.create, if_neg uncontained, ← isFull_eq]
    by_cases full : table.isFull = true
    · rw [if_pos full, if_pos full]
      rfl
    · rw [if_neg full, if_neg full, Except.map, Except.ok.injEq, registry_eq_iff]
      constructor
      · rfl
      · intro other
        rw [Registry.get?_insert, get?_registry, get?, List.lookup_append]
        by_cases same : id = other
        · subst same
          have missing : table.slots.lookup id = none := absent
          simp [missing]
        · simp [lookup_cons_ite, same, get?]

theorem registry_remove (table : SlotTable) (id : StoreId) :
    (table.remove id).registry = table.registry.remove id := by
  by_cases present : id ∈ table.slots.map Prod.fst
  · have ordered_eq : Slots.ordered (vacate id table.slots) =
        (Slots.ordered table.slots).erase id := by
      rw [vacate_eq]
      exact Slots.ordered_vacate table.distinct present
    rw [remove, dif_pos present]
    exact congrArg (Registry.mk table.limit) ordered_eq
  · have absent : table.get? id = none := lookup_eq_none_iff_notMem.mpr present
    rw [remove, dif_neg present, registry_eq_iff]
    constructor
    · rfl
    · intro other
      rw [Registry.get?_remove, get?_registry]
      split
      · rename_i same
        rw [← same, absent]
      · rfl

theorem registry_modify (table : SlotTable) (id : StoreId)
    (change : PacketStore → PacketStore) :
    (table.modify id change).registry = table.registry.modify id change := by
  have perm : (table.modify id change).slots.Perm
      (table.registry.stores.entries.map fun slot =>
        if slot.1 = id then (slot.1, change slot.2) else slot) :=
    table.slots_perm.map _
  rw [registry_eq_iff]
  constructor
  · rfl
  · exact Slots.lookup_eq_of_perm perm (table.modify id change).distinct

theorem map_registry_addEach (config : Config) (table : SlotTable)
    (entries : List (StoreId × PacketStore)) :
    (table.addEach config entries).map registry =
      Snapshot.addEach config table.registry entries := by
  induction entries generalizing table with
  | nil => rfl
  | cons first rest ih =>
      rcases first with ⟨id, store⟩
      rw [addEach, Snapshot.addEach, ← map_registry_create]
      cases Snapshot.defect? config store with
      | some defect => rfl
      | none =>
          cases table.create id store with
          | error cause => rfl
          | ok extended => exact ih extended

/-- A snapshot is taken over into slots exactly when it is taken over at all. -/
theorem map_registry_ofSnapshot (config : Config) (snapshot : Snapshot) :
    (ofSnapshot config snapshot).map registry = snapshot.toRegistry config := by
  have added := map_registry_addEach config (empty config.maxStores.toNat) snapshot.entries
  rw [registry_empty] at added
  have limit_eq : (empty config.maxStores.toNat).limit =
      (Registry.empty config.maxStores.toNat).limit := rfl
  simp only [ofSnapshot, Snapshot.toRegistry, limit_eq]
  split
  · rfl
  · exact added

/-! ## Tables of one registry cannot be told apart -/

/-- Something that is asked of a table or done to it. -/
inductive Access where
  | look (id : StoreId)
  | count
  | checkFull
  | list
  | lookAtBoth (source destination : StoreId)
  | capture
  | create (id : StoreId) (store : PacketStore)
  | remove (id : StoreId)
  | modify (id : StoreId) (change : PacketStore → PacketStore)
  | clear
  | restore (config : Config) (snapshot : Snapshot)

/-- What is seen of an access. -/
inductive Sight where
  | found (store : Option PacketStore)
  | counted (stores : Nat)
  | checked (full : Bool)
  | listed (ids : List StoreId)
  | foundBoth (stores : Option (PacketStore × PacketStore))
  | captured (snapshot : Snapshot)
  | created (refusal : Option Rejection)
  | restored (fault : Option Snapshot.Fault)
  | done

/-- The table after an access, and what is seen of it. -/
def access (table : SlotTable) : Access → SlotTable × Sight
  | .look id => (table, .found (table.get? id))
  | .count => (table, .counted table.size)
  | .checkFull => (table, .checked table.isFull)
  | .list => (table, .listed table.ids)
  | .lookAtBoth source destination =>
      (table, .foundBoth (table.sourceAndDestination? source destination))
  | .capture => (table, .captured table.snapshot)
  | .create id store =>
      match table.create id store with
      | .ok extended => (extended, .created none)
      | .error cause => (table, .created (some cause))
  | .remove id => (table.remove id, .found (table.get? id))
  | .modify id change => (table.modify id change, .found (table.get? id))
  | .clear => (table.clear, .done)
  | .restore config snapshot =>
      match ofSnapshot config snapshot with
      | .ok rebuilt => (rebuilt, .restored none)
      | .error fault => (table, .restored (some fault))

/-- What is seen of accesses in turn. -/
def sights (table : SlotTable) : List Access → List Sight
  | [] => []
  | access :: rest => (table.access access).2 :: (table.access access).1.sights rest

/-- One access shows the same of two tables of one registry, and leaves them tables of
one registry. -/
theorem access_congr {first second : SlotTable}
    (same : first.registry = second.registry) (access : Access) :
    (first.access access).1.registry = (second.access access).1.registry ∧
      (first.access access).2 = (second.access access).2 := by
  have found (id : StoreId) : first.get? id = second.get? id := by
    rw [← get?_registry, same, get?_registry]
  cases access with
  | look id => exact ⟨same, congrArg Sight.found (found id)⟩
  | count => exact ⟨same, by simp only [SlotTable.access, size_eq, same]⟩
  | checkFull => exact ⟨same, by simp only [SlotTable.access, isFull_eq, same]⟩
  | list => exact ⟨same, by simp only [SlotTable.access, ids_eq, same]⟩
  | lookAtBoth source destination =>
      exact ⟨same, by simp only [SlotTable.access, sourceAndDestination?_eq, same]⟩
  | capture => exact ⟨same, by simp only [SlotTable.access, snapshot_eq, same]⟩
  | create id store =>
      have created : (first.create id store).map registry =
          (second.create id store).map registry := by
        rw [map_registry_create, map_registry_create, same]
      simp only [SlotTable.access]
      cases firstCreated : first.create id store with
      | error cause =>
          cases secondCreated : second.create id store with
          | error other =>
              rw [firstCreated, secondCreated] at created
              cases created
              exact ⟨same, rfl⟩
          | ok extended =>
              rw [firstCreated, secondCreated] at created
              cases created
      | ok extended =>
          cases secondCreated : second.create id store with
          | error other =>
              rw [firstCreated, secondCreated] at created
              cases created
          | ok other =>
              rw [firstCreated, secondCreated] at created
              exact ⟨Except.ok.inj created, rfl⟩
  | remove id =>
      constructor
      · simp only [SlotTable.access, registry_remove, same]
      · exact congrArg Sight.found (found id)
  | modify id change =>
      constructor
      · simp only [SlotTable.access, registry_modify, same]
      · exact congrArg Sight.found (found id)
  | clear =>
      constructor
      · simp only [SlotTable.access, registry_clear, same]
      · rfl
  | restore config snapshot =>
      simp only [SlotTable.access]
      cases ofSnapshot config snapshot with
      | ok rebuilt => exact ⟨rfl, rfl⟩
      | error fault => exact ⟨same, rfl⟩

/-- However two tables of one registry came about, no accesses tell them apart. -/
theorem sights_congr {first second : SlotTable}
    (same : first.registry = second.registry) (accesses : List Access) :
    first.sights accesses = second.sights accesses := by
  induction accesses generalizing first second with
  | nil => rfl
  | cons access rest ih =>
      rcases access_congr same access with ⟨stillSame, seen⟩
      rw [sights, sights, seen, ih stillSame]

end SlotTable

end OnboardStorage
