import OnboardStorage.Emission
import OnboardStorage.Snapshot

/-!
# The storage and retrieval service

The state of the service is its configuration, its packet stores, its routing
table and its clock.  A service starts without stores and with the routes of
its configuration, provided that the configuration describes a platform.
-/

namespace OnboardStorage

/-- State of the service. -/
structure Service where
  config : Config
  registry : Registry
  router : Router
  clock : Clock
  deriving DecidableEq

namespace Service

/-- A service without stores, if the configuration describes a platform;
also answers what is logged about its routes. -/
def start (config : Config) (clock : Clock) :
    Except Config.Fault (Service × List Notice) :=
  match config.check with
  | .error fault => .error fault
  | .ok () =>
      match Router.ofRoutes config.routes with
      | .error fault => .error (.routing fault)
      | .ok router =>
          .ok (⟨config, Registry.empty config.maxStores.toNat, router, clock⟩,
            config.routes.map fun route => .routing route.serviceType route.store)

/-- Drop every store; the routes stay. -/
def reset (service : Service) : Service × List Notice :=
  ({ service with registry := service.registry.clear },
    [.dropping service.registry.size])

/-- The stores of the service. -/
def snapshot (service : Service) : Snapshot :=
  service.registry.snapshot

/-- Replace all stores by those of a snapshot. -/
def restore (service : Service) (snapshot : Snapshot) :
    Except Snapshot.Fault (Service × List Notice) :=
  match snapshot.toRegistry service.config with
  | .error fault => .error fault
  | .ok registry =>
      .ok ({ service with registry := registry }, [.restored registry.size])

/-! ## Telemetry -/

/-- Stamp a report of `serviceType` with the clock and file it into the store
it is routed to; the store is put back as filing leaves it. -/
def storeReport (service : Service) (serviceType : UInt8) (data : List UInt8) :
    Service × Except Refusal Insertion × List Notice :=
  match service.router.destination? serviceType with
  | none => (service, .ok .notRouted, [])
  | some id =>
      match service.registry.get? id with
      | none => (service, .error .unknownStore, [])
      | some store =>
          if !store.storageEnabled then (service, .ok .storageDisabled, [])
          else if service.config.maxMessageBytes.toNat < data.length then
            (service,
              .error (.exceedsMessageLimit data.length
                service.config.maxMessageBytes.toNat), [])
          else
            let (changed, answer) := store.file ⟨service.clock.reading, data⟩
            ({ service with registry := service.registry.modify id fun _ => changed },
              answer,
              match answer with
              | .error refusal => [.reportRefused serviceType id refusal]
              | .ok (.stored evicted) =>
                  if evicted = 0 then [] else [.reportEvicted id evicted serviceType]
              | .ok _ => [])

end Service

end OnboardStorage
