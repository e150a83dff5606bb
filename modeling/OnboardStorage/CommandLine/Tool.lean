import OnboardStorage.CommandLine.Arguments
import OnboardStorage.CommandLine.Log
import OnboardStorage.LogFilter.Reading
import OnboardStorage.Loading

/-!
# Tasks of the tool

The tool writes an example configuration, checks a configuration, or replays a
script and prints one line per event.  What it does to files goes through a
`Host`; all else that can be seen of a run is its `Outcome`.
-/

namespace OnboardStorage.CommandLine

/-- What a run of the tool leaves behind, apart from files. -/
structure Outcome where
  exitCode : Nat
  /-- Lines of regular output. -/
  output : List String
  /-- What is logged, before any complaint. -/
  log : List LogEntry
  /-- Lines of complaints. -/
  errors : List String
  deriving DecidableEq

namespace Outcome

/-- A run that went well. -/
def success (output : List String) : Outcome :=
  ⟨0, output, [], []⟩

/-- A run that failed after some output, with the cause if there is another one
behind it. -/
def failure (output : List String) (message : String) (cause : Option String) :
    Outcome :=
  let causes :=
    match cause with
    | none => []
    | some cause => ["", "Caused by:", "    " ++ cause]
  ⟨1, output, [], ("Error: " ++ message) :: causes⟩

/-- A run that breaks off because a text cannot be cut into parts. -/
def brokenOff (text : String) : Outcome :=
  ⟨101, [], [], ["a part begins or ends inside a character of `" ++ text ++ "`"]⟩

/-- The outcome of a run that logged something earlier. -/
def after (outcome : Outcome) (earlier : List LogEntry) : Outcome :=
  { outcome with log := earlier ++ outcome.log }

/-- The outcome with only those log entries that a filter admits. -/
def filtered (outcome : Outcome) (filter : LogFilter) : Outcome :=
  { outcome with log := outcome.log.filter fun entry => entry.passes filter }

end Outcome

/-! ## Help -/

/-- Name of the tool. -/
def toolName : String :=
  "pus-storagectl"

/-- Line that names the tool and its release. -/
def versionLine : String :=
  toolName ++ " " ++ Limits.version

/-- Lines that explain the arguments. -/
def usage : List String :=
  ["Usage: " ++ toolName ++ " [OPTIONS] <COMMAND>",
    "",
    "Commands:",
    "  gen-config  Write an example configuration (-o, --output <PATH>)",
    "  validate    Check a configuration",
    "  run         Replay a script (-s, --script <PATH>, --restore <PATH>, --save <PATH>)",
    "",
    "Options:",
    "  -c, --config <PATH>      Configuration of the platform",
    "      --log-level <LEVEL>  Level of the log",
    "  -h, --help               Print help",
    "  -V, --version            Print version"]

/-- Answer of the tool when there is no task to carry out. -/
def Interruption.outcome : Interruption → Outcome
  | .help => .success usage
  | .version => .success [versionLine]
  | other => ⟨2, [], [], ["error: " ++ other.message, "", usage.headD ""]⟩

/-! ## Example configuration -/

/-- Identifier of a store in the example. -/
def exampleStore (text : String) (nonempty : 0 < text.utf8ByteSize := by decide)
    (fits : text.utf8ByteSize ≤ Limits.idBytes := by decide) : StoreId :=
  ⟨text, nonempty, fits⟩

/-- A configuration with two routes. -/
def exampleConfig : Config :=
  { Config.standard with
    routes := [⟨3, exampleStore "housekeeping"⟩, ⟨5, exampleStore "events"⟩] }

/-- Comment in front of the example. -/
def exampleComment : String :=
  "# PUS Storage platform configuration\n# Generated by pus-storagectl gen-config\n\n"

/-- Write the example. -/
def generate {m : Type → Type} [Monad m] (host : Host m) (path : String) :
    m Outcome := do
  match exampleConfig.toText? with
  | none => return .failure [] "the example cannot be written" none
  | some text =>
      match ← host.write path (exampleComment ++ text ++ "\n") with
      | .error fault => return .failure [] fault.message none
      | .ok () => return .success ["Generated configuration file: " ++ path]

/-! ## Checking -/

/-- Lines about a route. -/
def routeLine (route : Route) : String :=
  s!"  ST[{route.serviceType}] -> {route.store.text}"

/-- Lines about a configuration. -/
def configLines (config : Config) : List String :=
  ["Configuration valid!",
    "",
    s!"Packet stores:    up to {config.maxStores}",
    s!"Store size:       up to {config.maxStoreBytes} bytes",
    s!"Message size:     up to {config.maxMessageBytes} bytes",
    s!"Virtual channels: {config.virtualChannels.lowest}..={config.virtualChannels.highest}",
    s!"Routes: {config.routes.length}"] ++
    config.routes.map routeLine

/-- Check the configuration at a path. -/
def validate {m : Type → Type} [Monad m] (host : Host m) :
    Option String → m Outcome
  | none => return .failure [] "validate requires --config" none
  | some path => do
      match Config.load (← host.read path) with
      | .ok config => return .success (configLines config)
      | .error cause =>
          return ⟨1, [], [], ["Configuration invalid: " ++ cause.message]⟩

/-! ## Replaying -/

/-- Wording of a fault of loading, behind another message. -/
def LoadFault.cause : LoadFault → String
  | .file fault => fault.message
  | .malformed => "the text is malformed"

/-- Restore the snapshot at a path, if there is a path. -/
def restoreFrom {m : Type → Type} [Monad m] (host : Host m) (service : Service) :
    Option String → m (Except Outcome (Service × List Notice))
  | none => return .ok (service, [])
  | some path => do
      match Snapshot.load (← host.read path) with
      | .error fault =>
          return .error
            (.failure [] ("loading snapshot " ++ path) (some (LoadFault.cause fault)))
      | .ok snapshot =>
          match service.restore snapshot with
          | .error fault =>
              return .error (.failure [] ("Invalid snapshot: " ++ fault.message) none)
          | .ok restored => return .ok restored

/-- Save the stores of a service to a path, if there is a path. -/
def saveSnapshot {m : Type → Type} [Monad m] (host : Host m) (service : Service)
    (output : List String) : Option String → m Outcome
  | none => return .success output
  | some path => do
      match ← host.write path service.snapshot.toText with
      | .ok () =>
          return (Outcome.success output).after [.saved service.registry.size path]
      | .error fault =>
          return .failure output ("I/O error: " ++ fault.message) (some fault.message)

/-- What is said about a script that is not loaded. -/
def scriptFailure (path : String) (fault : LoadFault) : Outcome :=
  let activity :=
    match fault with
    | .file _ => "reading"
    | .malformed => "parsing"
  .failure [] (activity ++ " script " ++ path) (some (LoadFault.cause fault))

/-- What is logged of a replay between restoring and saving. -/
def replayLog (script : String) (steps : List Step) (lines : List Line)
    (notices : List Notice) : List LogEntry :=
  .replaying steps.length script :: notices.map .service ++
    [.replayed (.ofLines steps.length lines)]

/-- Replay the script at a path under a configuration. -/
def replay {m : Type → Type} [Monad m] (host : Host m) (config : Config)
    (script : String) (restore save : Option String) : m Outcome := do
  match Step.loadList (← host.read script) with
  | .error fault => return scriptFailure script fault
  | .ok steps =>
      match Service.start config ⟨0⟩ with
      | .error fault =>
          return .failure [] ("Invalid configuration: " ++ fault.message) none
      | .ok (fresh, routing) =>
          match ← restoreFrom host fresh restore with
          | .error outcome => return outcome.after (routing.map .service)
          | .ok (service, restoring) =>
              let (final, lines, notices) := service.replay 0 steps
              let outcome ← saveSnapshot host final (lines.map Line.toText) save
              return outcome.after
                ((routing ++ restoring).map .service ++
                  replayLog script steps lines notices)

/-! ## Any task -/

/-- The configuration at a path, or the standard one if there is no path. -/
def loadConfig {m : Type → Type} [Monad m] (host : Host m) :
    Option String → m (Except Outcome Config)
  | none => return .ok .standard
  | some path => do
      match Config.load (← host.read path) with
      | .ok config => return .ok config
      | .error cause =>
          return .error (.failure [] ("loading " ++ path) (some cause.message))

/-- Carry out a task under the configuration of an invocation.  What is logged
passes the filter that the arguments or else the configuration give. -/
def Invocation.configured {m : Type → Type} [Monad m] (invocation : Invocation)
    (host : Host m) (task : Config → m Outcome) : m Outcome := do
  match ← loadConfig host invocation.config with
  | .error outcome => return outcome
  | .ok config =>
      let level := invocation.logLevel.getD config.logLevel
      match LogFilter.ofText? level with
      | none => return .brokenOff level
      | some filter => return (← task config).filtered filter

/-- Carry out an invocation. -/
def Invocation.carryOut {m : Type → Type} [Monad m] (invocation : Invocation)
    (host : Host m) : m Outcome :=
  match invocation.task with
  | .validate => validate host invocation.config
  | .generate path => invocation.configured host fun _ => generate host path
  | .run script restore save =>
      invocation.configured host fun config => replay host config script restore save

/-- Carry out what arguments ask for. -/
def run {m : Type → Type} [Monad m] (host : Host m) (arguments : List String) :
    m Outcome :=
  match parse arguments with
  | .error interruption => return interruption.outcome
  | .ok invocation => invocation.carryOut host

end OnboardStorage.CommandLine
