import OnboardStorage.PacketStore
import OnboardStorage.Rejection
import OnboardStorage.StoreId

/-!
# The registry of packet stores

A registry maps identifiers to stores and holds no more of them than its
limit, which never exceeds the ceiling of the platform.  All listings are in
ascending order of identifier.
-/

namespace OnboardStorage

/-- Packet stores by identifier, and how many there may be. -/
structure Registry where
  limit : Nat
  stores : OrderedMap StoreId PacketStore
  deriving DecidableEq

namespace Registry

/-- A registry without stores; a limit above the ceiling is lowered to it. -/
def empty (limit : Nat) : Registry :=
  ⟨min limit Limits.stores, OrderedMap.empty⟩

/-- The store named `id`, if there is one. -/
def get? (registry : Registry) (id : StoreId) : Option PacketStore :=
  registry.stores.get? id

/-- Whether a store is named `id`. -/
def contains (registry : Registry) (id : StoreId) : Bool :=
  (registry.get? id).isSome

/-- Identifiers of all stores, ascending. -/
def ids (registry : Registry) : List StoreId :=
  registry.stores.keys

/-- Number of stores. -/
def size (registry : Registry) : Nat :=
  registry.stores.size

/-- Whether no further store can be added. -/
def isFull (registry : Registry) : Bool :=
  registry.limit ≤ registry.size

/-- Add a store under a new identifier. -/
def create (registry : Registry) (id : StoreId) (store : PacketStore) :
    Except Rejection Registry :=
  if registry.contains id then .error .storeExists
  else if registry.isFull then .error .registryFull
  else .ok { registry with stores := registry.stores.insert id store }

/-- Remove the store named `id`, if there is one. -/
def remove (registry : Registry) (id : StoreId) : Registry :=
  { registry with stores := registry.stores.erase id }

/-- Remove every store. -/
def clear (registry : Registry) : Registry :=
  { registry with stores := OrderedMap.empty }

/-- Change the store named `id` in place. -/
def modify (registry : Registry) (id : StoreId)
    (change : PacketStore → PacketStore) : Registry :=
  { registry with stores := registry.stores.modify id change }

/-- Stores to copy between: both exist and they are not the same. -/
def sourceAndDestination? (registry : Registry) (source destination : StoreId) :
    Option (PacketStore × PacketStore) :=
  if source = destination then none
  else match registry.get? source, registry.get? destination with
    | some fromStore, some toStore => some (fromStore, toStore)
    | _, _ => none

@[simp]
theorem get?_empty (limit : Nat) (id : StoreId) : (empty limit).get? id = none :=
  rfl

/-- A store is added exactly under a new identifier and below the limit. -/
theorem create_eq_ok_iff {registry extended : Registry} {id : StoreId}
    {store : PacketStore} :
    registry.create id store = .ok extended ↔
      registry.get? id = none ∧ registry.size < registry.limit ∧
        extended = { registry with stores := registry.stores.insert id store } := by
  unfold create contains isFull
  cases found : registry.get? id with
  | some held => simp
  | none =>
      by_cases full : registry.limit ≤ registry.size
      · simp [full, Nat.not_lt.mpr full]
      · simp [full, Nat.lt_of_not_le full, eq_comm]

/-- Stores are found to copy between exactly when there are two of them. -/
theorem sourceAndDestination?_eq_some_iff {registry : Registry}
    {source destination : StoreId} {stores : PacketStore × PacketStore} :
    registry.sourceAndDestination? source destination = some stores ↔
      source ≠ destination ∧ registry.get? source = some stores.1 ∧
        registry.get? destination = some stores.2 := by
  unfold sourceAndDestination?
  by_cases same : source = destination
  · simp [same]
  · rw [if_neg same]
    cases registry.get? source with
    | none => simp
    | some fromStore =>
        cases registry.get? destination with
        | none => simp
        | some toStore => simp [same, Prod.ext_iff]

theorem get?_insert (registry : Registry) (id other : StoreId) (store : PacketStore) :
    ({ registry with stores := registry.stores.insert id store } : Registry).get? other =
      if id = other then some store else registry.get? other :=
  OrderedMap.get?_insert registry.stores id other store

theorem get?_remove (registry : Registry) (id other : StoreId) :
    (registry.remove id).get? other =
      if id = other then none else registry.get? other :=
  OrderedMap.get?_erase registry.stores id other

theorem get?_modify (registry : Registry) (id other : StoreId)
    (change : PacketStore → PacketStore) :
    (registry.modify id change).get? other =
      if id = other then (registry.get? other).map change
      else registry.get? other :=
  OrderedMap.get?_modify registry.stores id other change

@[simp]
theorem ids_modify (registry : Registry) (id : StoreId)
    (change : PacketStore → PacketStore) :
    (registry.modify id change).ids = registry.ids :=
  OrderedMap.keys_modify registry.stores id change

@[simp]
theorem size_modify (registry : Registry) (id : StoreId)
    (change : PacketStore → PacketStore) :
    (registry.modify id change).size = registry.size :=
  OrderedMap.size_modify registry.stores id change

/-- A registry is determined by its limit and its look-ups. -/
theorem ext_get? {left right : Registry} (limit_eq : left.limit = right.limit)
    (get?_eq : ∀ id, left.get? id = right.get? id) : left = right := by
  have stores_eq : left.stores = right.stores := OrderedMap.ext_get? get?_eq
  cases left
  cases right
  cases limit_eq
  cases stores_eq
  rfl

/-- Changes that agree on the store named `id` come to the same. -/
theorem modify_congr {registry : Registry} {id : StoreId}
    {first second : PacketStore → PacketStore}
    (agree : ∀ store, registry.get? id = some store → first store = second store) :
    registry.modify id first = registry.modify id second := by
  apply ext_get?
  · rfl
  intro other
  rw [get?_modify, get?_modify]
  by_cases same : id = other
  · subst same
    rw [if_pos rfl, if_pos rfl]
    exact Option.map_congr agree
  · rw [if_neg same, if_neg same]

/-- A change that leaves the store named `id` as it is changes nothing. -/
theorem modify_eq_self {registry : Registry} {id : StoreId}
    {change : PacketStore → PacketStore}
    (fixed : ∀ store, registry.get? id = some store → change store = store) :
    registry.modify id change = registry := by
  apply ext_get?
  · rfl
  intro other
  rw [get?_modify]
  by_cases same : id = other
  · subst same
    rw [if_pos rfl, Option.map_congr fixed, Option.map_id']
  · rw [if_neg same]

/-- Putting a store back as it was changes nothing. -/
theorem modify_const_eq_self {registry : Registry} {id : StoreId} {store : PacketStore}
    (found : registry.get? id = some store) :
    registry.modify id (fun _ => store) = registry := by
  apply modify_eq_self
  intro held heldThere
  exact Option.some.inj (found.symm.trans heldThere)

theorem size_remove_le (registry : Registry) (id : StoreId) :
    (registry.remove id).size ≤ registry.size :=
  OrderedMap.size_erase_le registry.stores id

theorem ids_ascending (registry : Registry) : registry.ids.Pairwise (· < ·) :=
  registry.stores.keys_ascending

theorem ids_nodup (registry : Registry) : registry.ids.Nodup :=
  registry.stores.keys_nodup

theorem mem_ids_iff {registry : Registry} {id : StoreId} :
    id ∈ registry.ids ↔ registry.contains id = true :=
  OrderedMap.mem_keys_iff

end Registry

end OnboardStorage
