import OnboardStorage.Host
import OnboardStorage.Layout.ConfigText
import OnboardStorage.Layout.Step
import OnboardStorage.Text.Json.Reading
import OnboardStorage.Text.Json.Writing

/-!
# Loading and saving

Configurations, snapshots and scripts are loaded from files.  A file may be
out of reach or malformed; a configuration is also checked, while a snapshot
is checked only when it is restored.
-/

namespace OnboardStorage

open Text

/-- Why nothing is loaded from a file. -/
inductive LoadFault where
  | file (fault : FileFault)
  | malformed
  deriving DecidableEq, Repr

/-- Load what a reader of texts makes of a file. -/
def load {α : Type} (read : String → Option α)
    (content : Except FileFault ByteArray) : Except LoadFault α :=
  match fileText content with
  | .error fault => .error (.file fault)
  | .ok text =>
      match read text with
      | some value => .ok value
      | none => .error .malformed

/-! ## Configurations -/

/-- Why a file gives no configuration. -/
inductive Config.Unusable where
  | notLoaded (fault : LoadFault)
  | invalid (fault : Config.Fault)
  deriving DecidableEq, Repr

/-- Wording of the cause. -/
def Config.Unusable.message : Config.Unusable → String
  | .notLoaded (.file fault) => "I/O error: " ++ fault.message
  | .notLoaded .malformed => "TOML parse error"
  | .invalid fault => "Invalid configuration: " ++ fault.message

/-- Load a configuration and check it. -/
def Config.load (content : Except FileFault ByteArray) :
    Except Config.Unusable Config :=
  match OnboardStorage.load Config.ofText? content with
  | .error fault => .error (.notLoaded fault)
  | .ok config =>
      match config.check with
      | .error fault => .error (.invalid fault)
      | .ok () => .ok config

/-! ## Snapshots -/

namespace Snapshot

/-- The text of a snapshot. -/
def toText (snapshot : Snapshot) : String :=
  Json.writeIndented snapshot.toDatum

/-- Read a snapshot from its text. -/
def ofText? (text : String) : Option Snapshot :=
  (Json.parse text).bind ofDatum?

/-- Load a snapshot. -/
def load (content : Except FileFault ByteArray) : Except LoadFault Snapshot :=
  OnboardStorage.load ofText? content

end Snapshot

/-! ## Scripts -/

namespace Step

/-- Read the steps of a script from its text. -/
def listOfText? (text : String) : Option (List Step) :=
  (Json.parse text).bind fun datum => datum.listOf? ofDatum?

/-- Load the steps of a script. -/
def loadList (content : Except FileFault ByteArray) :
    Except LoadFault (List Step) :=
  OnboardStorage.load listOfText? content

end Step

/-- The text of an output line. -/
def Line.toText (line : Line) : String :=
  Json.write line.toDatum

end OnboardStorage
