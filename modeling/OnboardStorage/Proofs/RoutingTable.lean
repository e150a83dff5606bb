import OnboardStorage.Proofs.FiniteMap
import OnboardStorage.Proofs.Verdict.Decisions

/-!
# The routing table as a bounded finite map

What a routing table says is described by the partial map from service types to stores,
of which there are at most thirty-two entries.  A route is refused only where it would be
the thirty-third; the route of a service type that has one is replaced, however full the
table is.

The table is asked in two directions: for the store of a service type, and for the
service types of a store.  Both are answered by the same map.  Routes that are kept in
slots, where the last one moves to the place of one that is removed, answer alike.
-/

namespace OnboardStorage

namespace Router

/-! ## Calls -/

/-- A change of the table. -/
inductive Call where
  | route (serviceType : UInt8) (store : StoreId)
  | unroute (serviceType : UInt8)
  | clear

/-- What a change is answered; a destination is the one before the change. -/
inductive Reply where
  | routed (outcome : Except Fault (Option StoreId))
  | unrouted (previous : Option StoreId)
  | cleared
  deriving DecidableEq

/-- The table after a change, and what the change is answered. -/
def call (router : Router) : Call → Router × Reply
  | .route serviceType store =>
      match router.route serviceType store with
      | .ok (extended, previous) => (extended, .routed (.ok previous))
      | .error fault => (router, .routed (.error fault))
  | .unroute serviceType =>
      ((router.unroute serviceType).1, .unrouted (router.unroute serviceType).2)
  | .clear => (router.clear, .cleared)

/-- What a change is answered and leads to by the partial map of the routes. -/
noncomputable def describe (map : PartialMap UInt8 StoreId) :
    Call → PartialMap UInt8 StoreId × Reply
  | .route serviceType store =>
      if map serviceType = none ∧ map.count = 32 then (map, .routed (.error .tableFull))
      else (Function.update map serviceType (some store), .routed (.ok (map serviceType)))
  | .unroute serviceType =>
      (Function.update map serviceType none, .unrouted (map serviceType))
  | .clear => (PartialMap.empty, .cleared)

/-! ## Service types -/

/-- The service types that have a route. -/
def serviceTypes (router : Router) : Finset UInt8 :=
  router.routes.keys.toFinset

variable {router extended : Router} {serviceType : UInt8} {store : StoreId}

theorem card_serviceTypes (router : Router) : router.serviceTypes.card = router.size :=
  router.routes.card_toFinset_keys

theorem mem_serviceTypes_iff :
    serviceType ∈ router.serviceTypes ↔ (router.destination? serviceType).isSome := by
  rw [serviceTypes, List.mem_toFinset]
  exact OrderedMap.mem_keys_iff

theorem notMem_serviceTypes_iff :
    serviceType ∉ router.serviceTypes ↔ router.destination? serviceType = none := by
  rw [mem_serviceTypes_iff, Option.not_isSome_iff_eq_none]

/-- A route is refused exactly where it would be one too many. -/
theorem route_eq_error_iff {fault : Fault} :
    router.route serviceType store = .error fault ↔
      router.destination? serviceType = none ∧ Limits.routes ≤ router.size := by
  unfold route
  by_cases full : (router.destination? serviceType).isNone ∧ Limits.routes ≤ router.size
  · rw [if_pos full]
    exact ⟨fun _ => ⟨Option.isNone_iff_eq_none.mp full.1, full.2⟩, fun _ => rfl⟩
  · rw [if_neg full]
    refine ⟨nofun, fun ⟨absent, filled⟩ => ?_⟩
    exact absurd ⟨Option.isNone_iff_eq_none.mpr absent, filled⟩ full

theorem exists_route_eq_ok
    (free : ¬ (router.destination? serviceType = none ∧ Limits.routes ≤ router.size)) :
    ∃ extended, router.route serviceType store =
      .ok (extended, router.destination? serviceType) := by
  rw [← Option.isNone_iff_eq_none] at free
  exact ⟨_, if_neg free⟩

theorem serviceTypes_of_route_eq_ok {previous : Option StoreId}
    (routed : router.route serviceType store = .ok (extended, previous)) :
    extended.serviceTypes = insert serviceType router.serviceTypes := by
  ext other
  rw [mem_serviceTypes_iff, destination?_of_route_eq_ok routed, Finset.mem_insert,
    mem_serviceTypes_iff]
  by_cases same : serviceType = other
  · simp [same]
  · simp [same, Ne.symm same]

/-- A table that is not overfull takes a route without becoming so. -/
theorem size_of_route_eq_ok {previous : Option StoreId}
    (routed : router.route serviceType store = .ok (extended, previous))
    (bounded : router.size ≤ Limits.routes) : extended.size ≤ Limits.routes := by
  rw [← card_serviceTypes, serviceTypes_of_route_eq_ok routed]
  by_cases known : serviceType ∈ router.serviceTypes
  · rw [Finset.insert_eq_of_mem known, card_serviceTypes]
    exact bounded
  · have accepted : ∀ fault, router.route serviceType store ≠ .error fault := by
      intro fault refused
      rw [routed] at refused
      cases refused
    have room : router.size < Limits.routes := by
      by_contra full
      exact accepted .tableFull
        (route_eq_error_iff.mpr ⟨notMem_serviceTypes_iff.mp known, Nat.le_of_not_lt full⟩)
    rw [Finset.card_insert_of_notMem known, card_serviceTypes]
    exact room

/-! ## Service types of a store -/

theorem servicesFor_ascending (router : Router) (store : StoreId) :
    (router.servicesFor store).Pairwise (· < ·) :=
  List.pairwise_map.mpr (router.routes.ascending.filter _)

theorem mem_servicesFor_iff :
    serviceType ∈ router.servicesFor store ↔ router.destination? serviceType = some store := by
  rw [destination?, ← OrderedMap.mem_entries_iff]
  simp [servicesFor]

/-! ## A table that says what is described -/

/-- A table says what a partial map describes, and is not overfull. -/
structure Keeps (router : Router) (map : PartialMap UInt8 StoreId) : Prop where
  look : router.destination? = map
  bounded : router.size ≤ 32

theorem keeps_empty : Router.empty.Keeps PartialMap.empty :=
  ⟨rfl, Nat.zero_le _⟩

namespace Keeps

variable {map : PartialMap UInt8 StoreId}

theorem count_eq (keeps : router.Keeps map) : map.count = router.size := by
  rw [← keeps.look]
  exact router.routes.count_get?

theorem full_iff (keeps : router.Keeps map) :
    router.destination? serviceType = none ∧ Limits.routes ≤ router.size ↔
      map serviceType = none ∧ map.count = 32 := by
  have bounded := keeps.bounded
  have ceiling : Limits.routes = 32 := rfl
  rw [keeps.look, keeps.count_eq]
  refine and_congr_right fun _ => ?_
  omega

theorem route_eq_error_iff (keeps : router.Keeps map) :
    router.route serviceType store = .error .tableFull ↔
      map serviceType = none ∧ map.count = 32 :=
  Router.route_eq_error_iff.trans keeps.full_iff

theorem exists_route_eq_ok (keeps : router.Keeps map)
    (free : ¬ (map serviceType = none ∧ map.count = 32)) (store : StoreId) :
    ∃ extended, router.route serviceType store = .ok (extended, map serviceType) ∧
      extended.Keeps (Function.update map serviceType (some store)) := by
  rcases Router.exists_route_eq_ok (fun full => free (keeps.full_iff.mp full)) with
    ⟨extended, routed⟩
  refine ⟨extended, keeps.look ▸ routed, ?_, size_of_route_eq_ok routed keeps.bounded⟩
  funext other
  rw [destination?_of_route_eq_ok routed, Function.update_apply, if_congr eq_comm rfl rfl,
    keeps.look]

theorem unroute (keeps : router.Keeps map) (serviceType : UInt8) :
    (router.unroute serviceType).1.Keeps (Function.update map serviceType none) where
  look := by
    rw [← keeps.look]
    exact router.routes.get?_erase_eq_update serviceType
  bounded := (router.routes.size_erase_le serviceType).trans keeps.bounded

/-- A change keeps the table in accordance with the description, and is answered by it. -/
theorem call (keeps : router.Keeps map) (call : Call) :
    (router.call call).1.Keeps (describe map call).1 ∧
      (router.call call).2 = (describe map call).2 := by
  cases call with
  | route serviceType store =>
      simp only [Router.call, describe]
      by_cases full : map serviceType = none ∧ map.count = 32
      · rw [keeps.route_eq_error_iff.mpr full, if_pos full]
        exact ⟨keeps, rfl⟩
      · rcases keeps.exists_route_eq_ok full store with ⟨extended, routed, keepsMore⟩
        rw [routed, if_neg full]
        exact ⟨keepsMore, rfl⟩
  | unroute serviceType =>
      exact ⟨keeps.unroute serviceType,
        congrArg Reply.unrouted (congrFun keeps.look serviceType)⟩
  | clear => exact ⟨keeps_empty, rfl⟩

theorem callsInTurn (keeps : router.Keeps map) (calls : List Call) :
    (inTurn Router.call router calls).1.Keeps (inTurn describe map calls).1 ∧
      (inTurn Router.call router calls).2 = (inTurn describe map calls).2 :=
  inTurn_related (fun (router : Router) map => router.Keeps map)
    (fun _ _ call keeps => keeps.call call) keeps calls

end Keeps

/-- What a table shows of a map with at most thirty-two entries, and how it can change. -/
structure IsBoundedMap (router : Router) (map : PartialMap UInt8 StoreId) : Prop where
  look : router.destination? = map
  size : router.size = map.count
  bounded : map.count ≤ 32
  routed : ∀ store, router.isRouted store = true ↔
    ∃ serviceType, map serviceType = some store
  ascending : ∀ store, (router.servicesFor store).Pairwise (· < ·)
  services : ∀ store serviceType,
    serviceType ∈ router.servicesFor store ↔ map serviceType = some store
  refused : ∀ serviceType store, router.route serviceType store = .error .tableFull ↔
    map serviceType = none ∧ map.count = 32
  rerouted : ∀ serviceType store, ¬ (map serviceType = none ∧ map.count = 32) →
    ∃ extended, router.route serviceType store = .ok (extended, map serviceType) ∧
      extended.destination? = Function.update map serviceType (some store)
  unrouted : ∀ serviceType, (router.unroute serviceType).2 = map serviceType ∧
    (router.unroute serviceType).1.destination? = Function.update map serviceType none

theorem Keeps.isBoundedMap {map : PartialMap UInt8 StoreId} (keeps : router.Keeps map) :
    router.IsBoundedMap map := by
  constructor
  case look => exact keeps.look
  case size => exact keeps.count_eq.symm
  case bounded => exact keeps.count_eq.le.trans keeps.bounded
  case routed =>
    intro store
    rw [isRouted_iff, keeps.look]
  case ascending => exact router.servicesFor_ascending
  case services =>
    intro store serviceType
    rw [mem_servicesFor_iff, keeps.look]
  case refused => exact fun serviceType store => keeps.route_eq_error_iff
  case rerouted =>
    intro serviceType store free
    rcases keeps.exists_route_eq_ok free store with ⟨extended, routed, after⟩
    exact ⟨extended, routed, after.look⟩
  case unrouted =>
    exact fun serviceType =>
      ⟨congrFun keeps.look serviceType, (keeps.unroute serviceType).look⟩

end Router

/-! ## Slots -/

/-- Routes in slots, under distinct service types. -/
structure RouteSlots where
  slots : List (UInt8 × StoreId)
  distinct : (slots.map Prod.fst).Nodup

namespace RouteSlots

/-- No routes. -/
def empty : RouteSlots :=
  ⟨[], List.nodup_nil⟩

/-- The store of the first slot of `serviceType`. -/
def destination? (table : RouteSlots) (serviceType : UInt8) : Option StoreId :=
  table.slots.lookup serviceType

/-- Number of routes. -/
def size (table : RouteSlots) : Nat :=
  table.slots.length

/-- Whether a slot holds `store`. -/
def isRouted (table : RouteSlots) (store : StoreId) : Bool :=
  table.slots.any fun slot => slot.2 = store

/-- Service types of the slots that hold `store`, sorted. -/
def servicesFor (table : RouteSlots) (store : StoreId) : List UInt8 :=
  ((table.slots.filter fun slot => slot.2 = store).map Prod.fst).mergeSort
    fun left right => !(right < left)

/-- Replace the route of a known service type in its slot, or fill a further slot. -/
def route (table : RouteSlots) (serviceType : UInt8) (store : StoreId) :
    Except Router.Fault (RouteSlots × Option StoreId) :=
  let filled : RouteSlots :=
    ⟨Slots.put serviceType store table.slots, Slots.nodup_put table.distinct _ _⟩
  match table.destination? serviceType with
  | some previous => .ok (filled, some previous)
  | none => if Limits.routes ≤ table.size then .error .tableFull else .ok (filled, none)

/-- Move the last route to the slot of `serviceType`, if there is one. -/
def unroute (table : RouteSlots) (serviceType : UInt8) : RouteSlots × Option StoreId :=
  (if present : serviceType ∈ table.slots.map Prod.fst then
      ⟨Slots.vacate serviceType table.slots, Slots.nodup_vacate table.distinct present⟩
    else table,
    table.destination? serviceType)

/-- The table after a change, and what the change is answered. -/
def call (table : RouteSlots) : Router.Call → RouteSlots × Router.Reply
  | .route serviceType store =>
      match table.route serviceType store with
      | .ok (extended, previous) => (extended, .routed (.ok previous))
      | .error fault => (table, .routed (.error fault))
  | .unroute serviceType =>
      ((table.unroute serviceType).1, .unrouted (table.unroute serviceType).2)
  | .clear => (empty, .cleared)

/-- The routing table of the same routes. -/
def router (table : RouteSlots) : Router :=
  ⟨Slots.ordered table.slots⟩

theorem destination?_router (table : RouteSlots) (serviceType : UInt8) :
    table.router.destination? serviceType = table.destination? serviceType :=
  Slots.get?_ordered table.distinct serviceType

theorem slots_perm (table : RouteSlots) : table.slots.Perm table.router.routes.entries :=
  Slots.perm_entries table.distinct

theorem size_eq (table : RouteSlots) : table.size = table.router.size :=
  table.slots_perm.length_eq

theorem isRouted_eq (table : RouteSlots) (store : StoreId) :
    table.isRouted store = table.router.isRouted store :=
  table.slots_perm.any_eq

theorem servicesFor_eq (table : RouteSlots) (store : StoreId) :
    table.servicesFor store = table.router.servicesFor store :=
  Slots.mergeSort_eq_of_perm ((table.slots_perm.filter _).map Prod.fst)
    (table.router.servicesFor_ascending store)

theorem map_router_route (table : RouteSlots) (serviceType : UInt8) (store : StoreId) :
    (table.route serviceType store).map (Prod.map router id) =
      table.router.route serviceType store := by
  have filled := Slots.ordered_put table.distinct serviceType store
  simp only [route, Router.route, destination?_router, ← size_eq]
  cases table.destination? serviceType with
  | some previous =>
      simp [Except.map, router, filled]
  | none =>
      by_cases full : Limits.routes ≤ table.size
      · simp [full, Except.map]
      · simp [full, Except.map, router, filled]

theorem router_unroute (table : RouteSlots) (serviceType : UInt8) :
    (table.unroute serviceType).1.router = (table.router.unroute serviceType).1 := by
  by_cases present : serviceType ∈ table.slots.map Prod.fst
  · rw [unroute, dif_pos present]
    exact congrArg Router.mk (Slots.ordered_vacate table.distinct present)
  · have absent : table.router.destination? serviceType = none :=
      (table.destination?_router serviceType).trans (lookup_eq_none_iff_notMem.mpr present)
    rw [unroute, dif_neg present]
    apply congrArg Router.mk
    apply OrderedMap.ext_get?
    intro other
    rw [OrderedMap.get?_erase]
    split
    · rename_i same
      exact same ▸ absent
    · rfl

/-- Slots and the table that they stand for are changed alike and answer alike. -/
theorem router_call (table : RouteSlots) (call : Router.Call) :
    (table.call call).1.router = (table.router.call call).1 ∧
      (table.call call).2 = (table.router.call call).2 := by
  cases call with
  | route serviceType store =>
      simp only [RouteSlots.call, Router.call, ← map_router_route]
      cases table.route serviceType store with
      | ok result => exact ⟨rfl, rfl⟩
      | error fault => exact ⟨rfl, rfl⟩
  | unroute serviceType =>
      exact ⟨table.router_unroute serviceType,
        congrArg Router.Reply.unrouted (table.destination?_router serviceType).symm⟩
  | clear => exact ⟨rfl, rfl⟩

theorem router_callsInTurn (table : RouteSlots) (calls : List Router.Call) :
    (inTurn RouteSlots.call table calls).1.router =
        (inTurn Router.call table.router calls).1 ∧
      (inTurn RouteSlots.call table calls).2 =
        (inTurn Router.call table.router calls).2 := by
  apply inTurn_related (fun (table : RouteSlots) router => table.router = router) _ rfl
  rintro table _ call rfl
  exact table.router_call call

/-- Slots show what a routing table shows. -/
structure ShowsAs (table : RouteSlots) (router : Router) : Prop where
  look : table.destination? = router.destination?
  size : table.size = router.size
  isRouted : table.isRouted = router.isRouted
  servicesFor : table.servicesFor = router.servicesFor

theorem showsAs_router (table : RouteSlots) : table.ShowsAs table.router where
  look := funext fun serviceType => (table.destination?_router serviceType).symm
  size := table.size_eq
  isRouted := funext table.isRouted_eq
  servicesFor := funext table.servicesFor_eq

end RouteSlots

end OnboardStorage
