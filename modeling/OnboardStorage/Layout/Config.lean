import OnboardStorage.Config
import OnboardStorage.Layout.Store

/-!
# Written form of the configuration

Every field of a configuration may be left out and then has its standard
value.  A range of channels and a route are written whole.
-/

namespace OnboardStorage

open Datum

namespace VirtualChannels

/-- Written form of a range of channels. -/
def toDatum (range : VirtualChannels) : Datum :=
  .record [("min", .ofNat range.lowest.toNat), ("max", .ofNat range.highest.toNat)]

/-- Read a range of channels. -/
def ofDatum? (origin : Origin) (datum : Datum) : Option VirtualChannels := do
  let field ← datum.fields? origin ["min", "max"]
  let lowest ← required word8? (field "min")
  let highest ← required word8? (field "max")
  return ⟨lowest, highest⟩

end VirtualChannels

namespace Capabilities

/-- Written form of the optional features. -/
def toDatum (capabilities : Capabilities) : Datum :=
  .record
    [("concurrent_retrieval_requests", .flag capabilities.concurrentRetrieval),
      ("prioritizing_retrievals", .flag capabilities.prioritizedRetrieval)]

/-- Read the optional features. -/
def ofDatum? (origin : Origin) (datum : Datum) : Option Capabilities := do
  let field ←
    datum.fields? origin ["concurrent_retrieval_requests", "prioritizing_retrievals"]
  let concurrent ←
    defaulted standard.concurrentRetrieval flag? (field "concurrent_retrieval_requests")
  let prioritized ←
    defaulted standard.prioritizedRetrieval flag? (field "prioritizing_retrievals")
  return ⟨concurrent, prioritized⟩

end Capabilities

namespace Route

/-- Written form of a route. -/
def toDatum (route : Route) : Datum :=
  .record
    [("service_type", .ofNat route.serviceType.toNat),
      ("packet_store", route.store.toDatum)]

/-- Read a route. -/
def ofDatum? (origin : Origin) (datum : Datum) : Option Route := do
  let field ← datum.fields? origin ["service_type", "packet_store"]
  let serviceType ← required word8? (field "service_type")
  let store ← required StoreId.ofDatum? (field "packet_store")
  return ⟨serviceType, store⟩

end Route

namespace Config

/-- Names of the fields of a configuration, in order. -/
def layout : List String :=
  ["max_packet_stores", "max_packet_store_size_bytes", "max_message_size_bytes",
    "log_level", "virtual_channels", "capabilities", "routes"]

/-- Written form of a configuration. -/
def toDatum (config : Config) : Datum :=
  .record
    [("max_packet_stores", .ofNat config.maxStores.toNat),
      ("max_packet_store_size_bytes", .ofNat config.maxStoreBytes.toNat),
      ("max_message_size_bytes", .ofNat config.maxMessageBytes.toNat),
      ("log_level", .text config.logLevel),
      ("virtual_channels", config.virtualChannels.toDatum),
      ("capabilities", config.capabilities.toDatum),
      ("routes", .list (config.routes.map Route.toDatum))]

/-- Read a configuration. -/
def ofDatum? (origin : Origin) (datum : Datum) : Option Config := do
  let field ← datum.fields? origin layout
  let maxStores ← defaulted standard.maxStores word64? (field "max_packet_stores")
  let maxStoreBytes ←
    defaulted standard.maxStoreBytes word32? (field "max_packet_store_size_bytes")
  let maxMessageBytes ←
    defaulted standard.maxMessageBytes word64? (field "max_message_size_bytes")
  let logLevel ← defaulted standard.logLevel text? (field "log_level")
  let virtualChannels ←
    defaulted .standard (VirtualChannels.ofDatum? origin) (field "virtual_channels")
  let capabilities ←
    defaulted .standard (Capabilities.ofDatum? origin) (field "capabilities")
  let routes ← defaulted [] (listOf? (Route.ofDatum? origin)) (field "routes")
  return {
    maxStores, maxStoreBytes, maxMessageBytes, logLevel, virtualChannels,
    capabilities, routes }

end Config

end OnboardStorage
