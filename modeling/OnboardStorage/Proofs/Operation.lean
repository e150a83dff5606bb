import OnboardStorage.Script

/-!
# Runs of the service

Everything that happens to a service from outside is an operation: a
telecommand, a telemetry report, a change of the clock or of the routing table,
a reset, or an attempt to restore a snapshot.  A run is a list of operations,
carried out in turn; nothing restricts their order.

The answers of a run are kept beside the state it leads to, so that two runs
can be compared by what is seen of them.
-/

namespace OnboardStorage

/-- Something done to the service from outside. -/
inductive Operation where
  | execute (request : Request)
  /-- File a telemetry report, stamped with the clock as it stands. -/
  | report (serviceType : UInt8) (data : List UInt8)
  /-- Make the clock show any tag, later or earlier. -/
  | setClock (tag : TimeTag)
  | advanceClock (duration : TimeTag)
  | route (serviceType : UInt8) (store : StoreId)
  | unroute (serviceType : UInt8)
  | clearRoutes
  | reset
  | restore (snapshot : Snapshot)
  deriving DecidableEq

/-- Whether an operation replaces all stores at once. -/
def Operation.replacesStores : Operation → Bool
  | .reset | .restore _ => true
  | _ => false

/-- What is seen of an operation. -/
inductive Answer where
  | emitted (emission : Emission)
  | filed (result : Except Refusal Insertion)
  | routed (result : Except Router.Fault (Option StoreId))
  | unrouted (previous : Option StoreId)
  | restored (fault : Option Snapshot.Fault)
  | done

namespace Service

/-- Carry out an operation; also answers what is seen of it. -/
def operate (service : Service) : Operation → Service × Answer
  | .execute request =>
      ((service.execute request).1, .emitted (service.execute request).2)
  | .report serviceType data =>
      ((service.storeReport serviceType data).1,
        .filed (service.storeReport serviceType data).2.1)
  | .setClock tag => ({ service with clock := service.clock.set tag }, .done)
  | .advanceClock duration =>
      ({ service with clock := service.clock.advance duration }, .done)
  | .route serviceType store =>
      match service.router.route serviceType store with
      | .ok (router, previous) => ({ service with router := router }, .routed (.ok previous))
      | .error fault => (service, .routed (.error fault))
  | .unroute serviceType =>
      ({ service with router := (service.router.unroute serviceType).1 },
        .unrouted (service.router.unroute serviceType).2)
  | .clearRoutes => ({ service with router := .empty }, .done)
  | .reset => (service.reset.1, .done)
  | .restore snapshot =>
      match service.restore snapshot with
      | .ok (restored, _) => (restored, .restored none)
      | .error fault => (service, .restored (some fault))

/-- Carry out operations in turn; also answers what is seen of each. -/
def run (service : Service) : List Operation → Service × List Answer
  | [] => (service, [])
  | operation :: rest =>
      (((service.operate operation).1.run rest).1,
        (service.operate operation).2 :: ((service.operate operation).1.run rest).2)

@[simp]
theorem run_nil (service : Service) : service.run [] = (service, []) :=
  rfl

theorem run_cons (service : Service) (operation : Operation) (rest : List Operation) :
    service.run (operation :: rest) =
      (((service.operate operation).1.run rest).1,
        (service.operate operation).2 :: ((service.operate operation).1.run rest).2) :=
  rfl

/-- Operations carried out in two portions are carried out in turn. -/
theorem run_append (service : Service) (first second : List Operation) :
    service.run (first ++ second) =
      (((service.run first).1.run second).1,
        (service.run first).2 ++ ((service.run first).1.run second).2) := by
  induction first generalizing service with
  | nil => simp
  | cons operation rest ih => simp [run_cons, ih]

end Service

end OnboardStorage
