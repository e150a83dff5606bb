import OnboardStorage.PacketStore.Admission
import OnboardStorage.Request
import OnboardStorage.Window

/-!
# Log notices

The service says in its log what it does.  A notice is kept as what happened;
its level and wording are given once, here.
-/

namespace OnboardStorage

/-- Severity of a notice. -/
inductive Severity where
  | debug
  | info
  | warning
  | error
  deriving DecidableEq, Repr

/-- Tag of the severity in front of a log line. -/
def Severity.tag : Severity → String
  | .debug => "DEBUG"
  | .info => "INFO"
  | .warning => "WARN"
  | .error => "ERROR"

/-- Something the service logs. -/
inductive Notice where
  | routing (serviceType : UInt8) (store : StoreId)
  | executing (request : MessageType)
  | applied (request : MessageType) (store : StoreId)
  | rejected (request : MessageType) (store : StoreId) (cause : Rejection)
  | retrievalStarted (range : TimeRange) (store : StoreId)
  | contentDeleted (count : Nat) (limit : TimeTag)
  | created (definition : StoreDefinition)
  | deleted (store : StoreId)
  | stillRouted (store : StoreId) (services : List UInt8)
  | copied (count : Nat) (source destination : StoreId) (kind : WindowKind)
  | copyTruncated (destination : StoreId) (refused evicted : Nat)
  | copyAborted (source destination : StoreId) (cause : UnknownWindowKind)
  | resizeEvicted (store : StoreId) (size : UInt32) (count : Nat)
  | reportEvicted (store : StoreId) (count : Nat) (serviceType : UInt8)
  | reportRefused (serviceType : UInt8) (store : StoreId) (cause : Refusal)
  | dropping (count : Nat)
  | restored (count : Nat)
  deriving DecidableEq

namespace Notice

/-- Severity of a notice. -/
def severity : Notice → Severity
  | .routing .. | .executing .. | .applied .. | .retrievalStarted ..
  | .contentDeleted .. | .copied .. => .debug
  | .created .. | .deleted .. | .dropping .. | .restored .. => .info
  | .rejected .. | .stillRouted .. | .copyTruncated .. | .resizeEvicted ..
  | .reportEvicted .. | .reportRefused .. => .warning
  | .copyAborted .. => .error

/-- Designation of a telecommand by service type and subtype. -/
def telecommand (request : MessageType) : String :=
  s!"TC[{Limits.serviceType},{request.subtype}]"

/-- Numbers in brackets, separated by commas. -/
def numberList (numbers : List UInt8) : String :=
  "[" ++ ", ".intercalate (numbers.map toString) ++ "]"

/-- Wording of a notice. -/
def text : Notice → String
  | .routing serviceType store =>
      s!"Routing ST[{serviceType}] reports to {store.text}"
  | .executing request => "Executing " ++ telecommand request
  | .applied request store => telecommand request ++ s!" applied to {store.text}"
  | .rejected request store cause =>
      telecommand request ++ s!" rejected for {store.text}: {cause.message}"
  | .retrievalStarted range store =>
      s!"By-time-range retrieval {range.start}..={range.stop} started on {store.text}"
  | .contentDeleted count limit => s!"Deleted {count} packets up to {limit}"
  | .created definition =>
      s!"Created {definition.kind.label} packet store {definition.id.text} " ++
        s!"({definition.size} bytes, VC {definition.virtualChannel})"
  | .deleted store => s!"Deleted packet store {store.text}"
  | .stillRouted store services =>
      s!"Packet store {store.text} still receives services " ++ numberList services
  | .copied count source destination kind =>
      s!"Copied {count} packets from {source.text} to {destination.text} ({kind.label})"
  | .copyTruncated destination refused evicted =>
      s!"Copy into {destination.text} truncated: {refused} rejected, {evicted} evicted"
  | .copyAborted source destination cause =>
      s!"Copy from {source.text} to {destination.text} aborted: {cause.message}"
  | .resizeEvicted store size count =>
      s!"Resizing {store.text} to {size} bytes evicted {count} packets"
  | .reportEvicted store count serviceType =>
      s!"Packet store {store.text} evicted {count} packets " ++
        s!"to admit a report of service {serviceType}"
  | .reportRefused serviceType store cause =>
      s!"Report of service {serviceType} not stored in {store.text}: {cause.message}"
  | .dropping count => s!"Dropping {count} packet stores"
  | .restored count => s!"Restored {count} packet stores"

/-- The log line of a notice: severity, then wording. -/
def line (notice : Notice) : String :=
  notice.severity.tag ++ " " ++ notice.text

end Notice

end OnboardStorage
