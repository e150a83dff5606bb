import OnboardStorage.Limits
import OnboardStorage.OrderedMap
import OnboardStorage.StoreId

/-!
# Routing of telemetry reports

A routing table sends the reports of a service type to at most one packet
store.  The table is bounded, but a service type that already has a route can
always be given another.  Whether the store of a route exists is no concern of
the table.
-/

namespace OnboardStorage

instance : KeyOrder UInt8 where
  trans := fun hab hbc => UInt8.lt_trans hab hbc
  irrefl := fun number => UInt8.lt_irrefl number
  connex := fun left right => Std.lt_trichotomy left right

/-- Reports of `serviceType` are filed into `store`. -/
structure Route where
  serviceType : UInt8
  store : StoreId
  deriving DecidableEq

/-- Stores by service type. -/
structure Router where
  routes : OrderedMap UInt8 StoreId
  deriving DecidableEq

namespace Router

/-- The table has no room for a further service type. -/
inductive Fault where
  | tableFull
  deriving DecidableEq, Repr

/-- Wording of the fault. -/
def Fault.message : Fault → String
  | .tableFull => s!"routing table full ({Limits.routes} routes)"

/-- The table without routes. -/
def empty : Router :=
  ⟨OrderedMap.empty⟩

/-- Number of routes. -/
def size (router : Router) : Nat :=
  router.routes.size

/-- The store that reports of `serviceType` are filed into. -/
def destination? (router : Router) (serviceType : UInt8) : Option StoreId :=
  router.routes.get? serviceType

/-- Send the reports of a service type to a store; also answers where they
went before. -/
def route (router : Router) (serviceType : UInt8) (store : StoreId) :
    Except Fault (Router × Option StoreId) :=
  let previous := router.destination? serviceType
  if previous.isNone ∧ Limits.routes ≤ router.size then .error .tableFull
  else .ok (⟨router.routes.insert serviceType store⟩, previous)

/-- Send the reports of a service type nowhere; also answers where they went
before. -/
def unroute (router : Router) (serviceType : UInt8) : Router × Option StoreId :=
  (⟨router.routes.erase serviceType⟩, router.destination? serviceType)

/-- Remove every route. -/
def clear (router : Router) : Router :=
  { router with routes := OrderedMap.empty }

/-- Add routes in turn; of two routes of one service type the later wins. -/
def routeAll (router : Router) : List Route → Except Fault Router
  | [] => .ok router
  | route :: rest =>
      match router.route route.serviceType route.store with
      | .error fault => .error fault
      | .ok (extended, _) => extended.routeAll rest

/-- The table of the given routes. -/
def ofRoutes (routes : List Route) : Except Fault Router :=
  empty.routeAll routes

/-- Service types whose reports are filed into `store`, ascending. -/
def servicesFor (router : Router) (store : StoreId) : List UInt8 :=
  (router.routes.entries.filter fun entry => entry.2 = store).map Prod.fst

/-- Whether any service type is routed to `store`. -/
def isRouted (router : Router) (store : StoreId) : Bool :=
  router.routes.entries.any fun entry => entry.2 = store

@[simp]
theorem destination?_empty (serviceType : UInt8) :
    empty.destination? serviceType = none :=
  rfl

/-- An accepted route changes one look-up. -/
theorem destination?_of_route_eq_ok {router extended : Router}
    {serviceType : UInt8} {store : StoreId} {previous : Option StoreId}
    (hroute : router.route serviceType store = .ok (extended, previous))
    (other : UInt8) :
    extended.destination? other =
      if serviceType = other then some store else router.destination? other := by
  simp only [route] at hroute
  split at hroute
  · simp at hroute
  · cases hroute
    exact OrderedMap.get?_insert router.routes serviceType other store

end Router

end OnboardStorage
