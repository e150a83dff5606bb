import OnboardStorage.Layout.Config
import OnboardStorage.Text.Toml.Reading
import OnboardStorage.Text.Toml.Writing

/-!
# Text of the configuration

A configuration is written with its single values first, then the two tables
it always has, then one table for each route.  It is read from any text that
gives its values in some order or leaves them out.
-/

namespace OnboardStorage

open Text

namespace Config

/-- The statement that gives a value to a name. -/
def entry (name : String) (value : Datum) : Toml.Statement :=
  .entry (.plain name) value

/-- The statements of a route. -/
def routeStatements (route : Route) : List Toml.Statement :=
  [.element (.plain "routes"),
    entry "service_type" (.ofNat route.serviceType.toNat),
    entry "packet_store" route.store.toDatum]

/-- The statements of a configuration.  Routes are tables of their own; that
there are none is written among the single values. -/
def statements (config : Config) : List Toml.Statement :=
  [entry "max_packet_stores" (.ofNat config.maxStores.toNat),
      entry "max_packet_store_size_bytes" (.ofNat config.maxStoreBytes.toNat),
      entry "max_message_size_bytes" (.ofNat config.maxMessageBytes.toNat),
      entry "log_level" (.text config.logLevel)] ++
    (if config.routes.isEmpty then [entry "routes" (.list [])] else []) ++
    [.table (.plain "virtual_channels"),
      entry "min" (.ofNat config.virtualChannels.lowest.toNat),
      entry "max" (.ofNat config.virtualChannels.highest.toNat),
      .table (.plain "capabilities"),
      entry "concurrent_retrieval_requests"
        (.flag config.capabilities.concurrentRetrieval),
      entry "prioritizing_retrievals"
        (.flag config.capabilities.prioritizedRetrieval)] ++
    config.routes.flatMap routeStatements

/-- The text of a configuration, unless a number in it is too large. -/
def toText? (config : Config) : Option String :=
  Toml.write config.statements

/-- Read a configuration from its text. -/
def ofText? (text : String) : Option Config :=
  (Toml.parse text).bind (ofDatum? .table)

end Config

end OnboardStorage
