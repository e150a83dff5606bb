import OnboardStorage.Router

/-!
# Platform configuration

A configuration fixes the limits of a platform, its optional capabilities and
the routes it starts with.  Any combination of values can be written down;
`Config.check` decides which of them describe a platform, and names the first
limit that a rejected one violates.
-/

namespace OnboardStorage

/-- Inclusive range of downlink channels. -/
structure VirtualChannels where
  lowest : UInt8
  highest : UInt8
  deriving DecidableEq, Repr

namespace VirtualChannels

/-- The range used when none is configured. -/
def standard : VirtualChannels :=
  ⟨1, 10⟩

/-- Whether `channel` lies in the range. -/
def contains (range : VirtualChannels) (channel : UInt8) : Bool :=
  range.lowest ≤ channel && channel ≤ range.highest

end VirtualChannels

/-- Optional features of a platform. -/
structure Capabilities where
  /-- Open and by-time-range retrieval may run on one store at once. -/
  concurrentRetrieval : Bool
  /-- Retrieval requests carry a priority. -/
  prioritizedRetrieval : Bool
  deriving DecidableEq, Repr

/-- The features of a platform that declares none. -/
def Capabilities.standard : Capabilities :=
  ⟨false, true⟩

/-- Limits, features and initial routes of a platform. -/
structure Config where
  maxStores : UInt64
  maxStoreBytes : UInt32
  maxMessageBytes : UInt64
  /-- Level of the host's log; it has no bearing on the service. -/
  logLevel : String
  virtualChannels : VirtualChannels
  capabilities : Capabilities
  routes : List Route
  deriving DecidableEq

namespace Config

/-- The configuration in which nothing is set. -/
def standard : Config where
  maxStores := 4
  maxStoreBytes := 4096
  maxMessageBytes := 1024
  logLevel := "info"
  virtualChannels := .standard
  capabilities := .standard
  routes := []

/-- Whether a store of `bytes` bytes can be handled. -/
def acceptsStoreSize (config : Config) (bytes : UInt32) : Bool :=
  0 < bytes && bytes ≤ config.maxStoreBytes

/-- Why a configuration describes no platform. -/
inductive Fault where
  | storeCount (given : UInt64)
  | storeSizeZero
  | messageSize (given : UInt64)
  | noChannels (range : VirtualChannels)
  | routeCount (given : Nat)
  /-- The route at `index` repeats the service type of an earlier one. -/
  | repeatedRoute (index : Nat) (serviceType : UInt8)
  | routing (fault : Router.Fault)
  deriving DecidableEq, Repr

/-- Wording of the fault. -/
def Fault.message : Fault → String
  | .storeCount given =>
      s!"max_packet_stores must be in 1..={Limits.stores} (got {given})"
  | .storeSizeZero => "max_packet_store_size_bytes must be positive"
  | .messageSize given =>
      s!"max_message_size_bytes must be in 1..={Limits.messageBytes} (got {given})"
  | .noChannels range =>
      s!"Virtual channel range {range.lowest}..={range.highest} is empty"
  | .routeCount given => s!"{given} routes configured (limit {Limits.routes})"
  | .repeatedRoute index serviceType =>
      s!"Route {index} duplicates service type {serviceType}"
  | .routing fault => fault.message

/-- The first route, counted from `index`, whose service type is among `seen`
or belongs to a route before it. -/
def repeatedRoute? (index : Nat) (seen : List UInt8) :
    List Route → Option (Nat × UInt8)
  | [] => none
  | route :: rest =>
      if route.serviceType ∈ seen then some (index, route.serviceType)
      else repeatedRoute? (index + 1) (route.serviceType :: seen) rest

/-- Accept a configuration that describes a platform. -/
def check (config : Config) : Except Fault Unit :=
  if config.maxStores.toNat = 0 ∨ Limits.stores < config.maxStores.toNat then
    .error (.storeCount config.maxStores)
  else if config.maxStoreBytes = 0 then .error .storeSizeZero
  else if config.maxMessageBytes.toNat = 0 ∨
      Limits.messageBytes < config.maxMessageBytes.toNat then
    .error (.messageSize config.maxMessageBytes)
  else if config.virtualChannels.highest < config.virtualChannels.lowest then
    .error (.noChannels config.virtualChannels)
  else if Limits.routes < config.routes.length then
    .error (.routeCount config.routes.length)
  else match repeatedRoute? 0 [] config.routes with
    | some (index, serviceType) => .error (.repeatedRoute index serviceType)
    | none => .ok ()

/-! ## Setting values one by one -/

/-- One value of a configuration, to be set. -/
inductive Setting where
  | maxStores (count : UInt64)
  | maxStoreBytes (bytes : UInt32)
  | maxMessageBytes (bytes : UInt64)
  | logLevel (level : String)
  | virtualChannels (range : VirtualChannels)
  | concurrentRetrieval (enabled : Bool)
  | prioritizedRetrieval (enabled : Bool)
  /-- Add a route after the others. -/
  | route (route : Route)
  deriving DecidableEq

/-- Set one value; all others keep theirs. -/
def set (config : Config) : Setting → Config
  | .maxStores count => { config with maxStores := count }
  | .maxStoreBytes bytes => { config with maxStoreBytes := bytes }
  | .maxMessageBytes bytes => { config with maxMessageBytes := bytes }
  | .logLevel level => { config with logLevel := level }
  | .virtualChannels range => { config with virtualChannels := range }
  | .concurrentRetrieval enabled =>
      { config with
        capabilities := { config.capabilities with concurrentRetrieval := enabled } }
  | .prioritizedRetrieval enabled =>
      { config with
        capabilities := { config.capabilities with prioritizedRetrieval := enabled } }
  | .route route => { config with routes := config.routes ++ [route] }

/-- The standard configuration after the given settings, in turn. -/
def ofSettings (settings : List Setting) : Config :=
  settings.foldl set standard

end Config

end OnboardStorage
