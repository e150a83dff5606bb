import OnboardStorage.Proofs.RoutingTable
import OnboardStorage.Proofs.Start

/-!
# The routes that a service starts with

A configuration is checked for routes that repeat a service type before its routes are
put into a table, and the table of its own accord refuses nothing but a thirty-third
service type.  The check is the stricter of the two, so what passes it is never refused
by the table, and there is no repeated route for a later one to replace.

A table that is built without the check takes any number of routes, as long as they are
of no more than thirty-two service types; of two routes of one service type the later one
stays.
-/

namespace OnboardStorage

/-! ## The configurations that are accepted -/

/-- A configuration that describes a platform. -/
structure Config.DescribesPlatform (config : Config) : Prop where
  stores : 1 ≤ config.maxStores.toNat ∧ config.maxStores.toNat ≤ 16
  storeBytes : 0 < config.maxStoreBytes
  messageBytes : 1 ≤ config.maxMessageBytes.toNat ∧ config.maxMessageBytes.toNat ≤ 1024
  channels : config.virtualChannels.lowest ≤ config.virtualChannels.highest
  routes : config.routes.length ≤ 32
  noRepetition : config.routes.Pairwise fun earlier later =>
    earlier.serviceType ≠ later.serviceType

theorem Config.check_eq_ok_iff_describesPlatform {config : Config} :
    config.check = .ok () ↔ config.DescribesPlatform := by
  rw [check_eq_ok_iff, List.Nodup, List.pairwise_map]
  constructor
  · rintro ⟨stores, storeBytes, messageBytes, channels, routes, noRepetition⟩
    exact ⟨stores, UInt32.pos_iff_ne_zero.mpr storeBytes, messageBytes, channels, routes,
      noRepetition⟩
  · rintro ⟨stores, storeBytes, messageBytes, channels, routes, noRepetition⟩
    exact ⟨stores, UInt32.pos_iff_ne_zero.mp storeBytes, messageBytes, channels, routes,
      noRepetition⟩

/-! ## Tables of routes -/

/-- The store of the last route of a service type. -/
def Route.lastStore? (serviceType : UInt8) (routes : List Route) : Option StoreId :=
  (routes.filter fun route => route.serviceType = serviceType).getLast?.map Route.store

namespace Route

theorem lastStore?_cons (serviceType : UInt8) (route : Route) (rest : List Route) :
    lastStore? serviceType (route :: rest) = (lastStore? serviceType rest).or
      (if route.serviceType = serviceType then some route.store else none) := by
  by_cases same : route.serviceType = serviceType
  · rw [lastStore?, List.filter_cons_of_pos (by simpa using same), List.getLast?_cons,
      if_pos same, lastStore?]
    cases (rest.filter fun route => route.serviceType = serviceType).getLast? <;> rfl
  · rw [lastStore?, List.filter_cons_of_neg (by simpa using same), if_neg same,
      Option.or_none, lastStore?]

/-- Where no service type is repeated its last route is its only one. -/
theorem lastStore?_eq_some_iff {routes : List Route}
    (noRepetition : routes.Pairwise fun earlier later =>
      earlier.serviceType ≠ later.serviceType) {serviceType : UInt8} {store : StoreId} :
    lastStore? serviceType routes = some store ↔ ⟨serviceType, store⟩ ∈ routes := by
  induction routes generalizing store with
  | nil => simp [lastStore?]
  | cons route rest ih =>
      rcases route with ⟨first, destination⟩
      rw [List.pairwise_cons] at noRepetition
      rw [lastStore?_cons, List.mem_cons]
      by_cases same : first = serviceType
      · have unlisted (other : StoreId) : (⟨serviceType, other⟩ : Route) ∉ rest :=
          fun listed => noRepetition.1 _ listed same
        have nothingLater : lastStore? serviceType rest = none := by
          rw [Option.eq_none_iff_forall_ne_some]
          exact fun other found => unlisted other ((ih noRepetition.2).mp found)
        rw [nothingLater, Option.none_or, if_pos same]
        simp [same, unlisted, eq_comm]
      · rw [if_neg same, Option.or_none, ih noRepetition.2]
        simp [Ne.symm same]

end Route

namespace Router

variable {router extended : Router} {routes : List Route}

/-- Routes are refused exactly where there are too many service types, those of the
table included. -/
theorem routeAll_eq_error_iff (bounded : router.size ≤ Limits.routes) :
    router.routeAll routes = .error .tableFull ↔
      Limits.routes <
        (router.serviceTypes ∪ (routes.map Route.serviceType).toFinset).card := by
  induction routes generalizing router with
  | nil =>
      rw [List.map_nil, List.toFinset_nil, Finset.union_empty, card_serviceTypes]
      exact iff_of_false nofun (Nat.not_lt.mpr bounded)
  | cons route rest ih =>
      rw [List.map_cons, List.toFinset_cons, Finset.union_insert, ← Finset.insert_union]
      cases routed : router.route route.serviceType route.store with
      | error fault =>
          rcases route_eq_error_iff.mp routed with ⟨absent, full⟩
          have more : Limits.routes < (insert route.serviceType router.serviceTypes).card := by
            rw [Finset.card_insert_of_notMem (notMem_serviceTypes_iff.mpr absent),
              card_serviceTypes]
            exact Nat.lt_succ_of_le full
          cases fault
          rw [routeAll, routed]
          exact iff_of_true rfl
            (more.trans_le (Finset.card_le_card Finset.subset_union_left))
      | ok result =>
          rcases result with ⟨middle, previous⟩
          rw [routeAll, routed, ← serviceTypes_of_route_eq_ok routed]
          exact ih (size_of_route_eq_ok routed bounded)

/-- The last route of a service type decides; without one its destination stays. -/
theorem destination?_of_routeAll_eq_ok (routed : router.routeAll routes = .ok extended)
    (serviceType : UInt8) :
    extended.destination? serviceType =
      (Route.lastStore? serviceType routes).or (router.destination? serviceType) := by
  induction routes generalizing router with
  | nil =>
      cases routed
      rfl
  | cons route rest ih =>
      rw [routeAll] at routed
      cases first : router.route route.serviceType route.store with
      | error fault =>
          rw [first] at routed
          cases routed
      | ok result =>
          rcases result with ⟨middle, previous⟩
          rw [first] at routed
          rw [ih routed, destination?_of_route_eq_ok first, Route.lastStore?_cons,
            Option.or_assoc]
          split <;> rfl

theorem ofRoutes_eq_error_iff :
    ofRoutes routes = .error .tableFull ↔
      32 < (routes.map Route.serviceType).toFinset.card := by
  have nothing : Router.empty.serviceTypes = ∅ := rfl
  rw [ofRoutes, routeAll_eq_error_iff (Nat.zero_le _), nothing, Finset.empty_union]
  rfl

theorem destination?_of_ofRoutes_eq_ok (built : ofRoutes routes = .ok router)
    (serviceType : UInt8) :
    router.destination? serviceType = Route.lastStore? serviceType routes := by
  rw [destination?_of_routeAll_eq_ok built, destination?_empty, Option.or_none]

theorem exists_ofRoutes_eq_ok
    (few : (routes.map Route.serviceType).toFinset.card ≤ 32) :
    ∃ router, ofRoutes routes = .ok router := by
  cases built : ofRoutes routes with
  | error fault =>
      cases fault
      exact absurd (ofRoutes_eq_error_iff.mp built) (Nat.not_lt.mpr few)
  | ok router => exact ⟨router, rfl⟩

end Router

namespace RouteSlots

/-- Add routes in turn. -/
def routeAll (table : RouteSlots) : List Route → Except Router.Fault RouteSlots
  | [] => .ok table
  | route :: rest =>
      match table.route route.serviceType route.store with
      | .error fault => .error fault
      | .ok (extended, _) => extended.routeAll rest

/-- The slots of the given routes. -/
def ofRoutes (routes : List Route) : Except Router.Fault RouteSlots :=
  empty.routeAll routes

theorem map_router_routeAll (table : RouteSlots) (routes : List Route) :
    (table.routeAll routes).map router = table.router.routeAll routes := by
  induction routes generalizing table with
  | nil => rfl
  | cons route rest ih =>
      rw [routeAll, Router.routeAll, ← map_router_route]
      cases table.route route.serviceType route.store with
      | error fault => rfl
      | ok result => exact ih result.1

end RouteSlots

namespace Service

/-! ## Starting the service -/

/-- The check of the configuration is all that can keep a service from starting. -/
theorem start_eq_error_iff {config : Config} {clock : Clock} {fault : Config.Fault} :
    start config clock = .error fault ↔ config.check = .error fault := by
  cases checked : config.check with
  | error cause =>
      rw [start, checked]
      simp
  | ok valid =>
      rcases exists_start_eq_ok checked clock with ⟨router, started⟩
      rw [started]
      simp

theorem ofRoutes_of_start_eq_ok {config : Config} {clock : Clock} {fresh : Service}
    {notices : List Notice} (started : start config clock = .ok (fresh, notices)) :
    Router.ofRoutes config.routes = .ok fresh.router := by
  unfold start at started
  split at started
  · cases started
  split at started
  · cases started
  · rename_i router built
    cases started
    exact built

/-- Validation and routing agree.  A configuration is accepted exactly when it describes a
platform, a service starts exactly when it is accepted, and then the destinations are the
configured routes.  A list of routes is refused by the table exactly when it has more than
thirty-two service types, and else the last route of each decides.  Whatever changes are
made on a new table, they are answered and change it as they would a partial map of at
most thirty-two routes; and so it is with routes in slots, where the last one moves to
the place of one that is removed. -/
theorem validation_and_routing_agree :
    (∀ config : Config,
      (config.check = .ok () ↔ config.DescribesPlatform) ∧
      ∀ clock : Clock,
        ((∃ fresh notices, start config clock = .ok (fresh, notices)) ↔
          config.check = .ok ()) ∧
        (∀ fault, start config clock = .error fault ↔ config.check = .error fault) ∧
        ∀ fresh notices, start config clock = .ok (fresh, notices) →
          ∀ serviceType store, fresh.router.destination? serviceType = some store ↔
            ⟨serviceType, store⟩ ∈ config.routes) ∧
    (∀ routes : List Route,
      (Router.ofRoutes routes = .error .tableFull ↔
        32 < (routes.map Route.serviceType).toFinset.card) ∧
      ((routes.map Route.serviceType).toFinset.card ≤ 32 →
        ∃ router, Router.ofRoutes routes = .ok router ∧
          ∀ serviceType, router.destination? serviceType =
            Route.lastStore? serviceType routes) ∧
      (RouteSlots.ofRoutes routes).map RouteSlots.router = Router.ofRoutes routes) ∧
    ∀ calls : List Router.Call,
      let described := inTurn Router.describe PartialMap.empty calls
      let kept := inTurn Router.call Router.empty calls
      let slots := inTurn RouteSlots.call RouteSlots.empty calls
      kept.2 = described.2 ∧ slots.2 = described.2 ∧
        kept.1.IsBoundedMap described.1 ∧ slots.1.ShowsAs kept.1 := by
  constructor
  · intro config
    refine ⟨Config.check_eq_ok_iff_describesPlatform, fun clock => ?_⟩
    refine ⟨⟨?_, ?_⟩, fun fault => start_eq_error_iff, ?_⟩
    · rintro ⟨fresh, notices, started⟩
      exact (eq_of_start_eq_ok started).1
    · intro valid
      rcases exists_start_eq_ok valid clock with ⟨router, started⟩
      exact ⟨_, _, started⟩
    · intro fresh notices started serviceType store
      have valid := Config.check_eq_ok_iff_describesPlatform.mp (eq_of_start_eq_ok started).1
      rw [Router.destination?_of_ofRoutes_eq_ok (ofRoutes_of_start_eq_ok started)]
      exact Route.lastStore?_eq_some_iff valid.noRepetition
  constructor
  · intro routes
    refine ⟨Router.ofRoutes_eq_error_iff, fun few => ?_,
      RouteSlots.empty.map_router_routeAll routes⟩
    rcases Router.exists_ofRoutes_eq_ok few with ⟨router, built⟩
    exact ⟨router, built, Router.destination?_of_ofRoutes_eq_ok built⟩
  · intro calls described kept slots
    obtain ⟨keeps, answers⟩ := Router.keeps_empty.callsInTurn calls
    obtain ⟨stands, sameAnswers⟩ := RouteSlots.empty.router_callsInTurn calls
    exact ⟨answers, sameAnswers.trans answers, keeps.isBoundedMap,
      stands ▸ slots.1.showsAs_router⟩

/-- A repeated service type is refused by the check and would be taken by the table.  A
full table refuses a further service type and redirects a known one; when the first of
thirty-two routes is removed the last one takes its slot. -/
theorem thirty_third_route_is_refused :
    let hk : StoreId := ⟨"hk", by decide, by decide⟩
    let log : StoreId := ⟨"log", by decide, by decide⟩
    let config : Config := { Config.standard with routes := [⟨3, hk⟩, ⟨5, log⟩] }
    let repeated : List Route := [⟨3, hk⟩, ⟨3, log⟩]
    let calls : List Router.Call :=
      (List.range 32).map (fun number => .route (UInt8.ofNat number) hk) ++
        [.route 32 log, .route 7 log, .unroute 0, .route 32 log]
    let described := inTurn Router.describe PartialMap.empty calls
    let kept := inTurn Router.call Router.empty calls
    let slots := inTurn RouteSlots.call RouteSlots.empty calls
    config.DescribesPlatform ∧
      (∃ fresh notices, start config ⟨0⟩ = .ok (fresh, notices) ∧
        fresh.router.destination? 5 = some log) ∧
      start { config with routes := repeated } ⟨0⟩ = .error (.repeatedRoute 1 3) ∧
      (∃ router, Router.ofRoutes repeated = .ok router ∧
        router.destination? 3 = some log) ∧
      described.2.drop 32 =
        [.routed (.error .tableFull), .routed (.ok (some hk)), .unrouted (some hk),
          .routed (.ok none)] ∧
      slots.1.slots.take 2 = [(31, hk), (1, hk)] ∧ slots.1.servicesFor log = [7, 32] ∧
      kept.1.IsBoundedMap described.1 := by
  intro hk log config repeated calls described kept slots
  rcases validation_and_routing_agree with ⟨configurations, tables, changes⟩
  rcases configurations config with ⟨accepted, starts⟩
  rcases starts ⟨0⟩ with ⟨started, -, routed⟩
  have valid : config.check = .ok () := by decide +kernel
  rcases started.mpr valid with ⟨fresh, notices, start_eq⟩
  have refused := (configurations { config with routes := repeated }).2 ⟨0⟩
  rcases (tables repeated).2.1 (by decide +kernel) with ⟨router, built, last⟩
  rcases changes calls with ⟨answers, -, bounded, shows⟩
  refine ⟨accepted.mp valid, ⟨fresh, notices, start_eq, ?_⟩, ?_, ⟨router, built, ?_⟩, ?_,
    by decide +kernel, ?_, bounded⟩
  · exact (routed fresh notices start_eq 5 log).mpr (by decide +kernel)
  · exact (refused.2.1 _).mpr (by decide +kernel)
  · exact (last 3).trans (by decide +kernel)
  · exact answers ▸ (by decide +kernel)
  · rw [shows.servicesFor]
    decide +kernel

end Service

end OnboardStorage
