import CallLog.Call.Event
import CallLog.Peer.Address
import CallLog.Time.Timestamp

/-!
# Log records

One record describes one call event. Fields that a kind of event does not have are absent. Two
records are equal exactly when all their fields are.
-/

namespace CallLog

/-- How important a record is. -/
inductive Level where
  | unknown
  | trace
  | debug
  | info
  | warn
  | error
  | critical
  deriving DecidableEq, Repr

/-- The name of a level in a record. -/
def Level.label : Level → String
  | unknown => "LOG_LEVEL_UNKNOWN"
  | trace => "LOG_LEVEL_TRACE"
  | debug => "LOG_LEVEL_DEBUG"
  | info => "LOG_LEVEL_INFO"
  | warn => "LOG_LEVEL_WARN"
  | error => "LOG_LEVEL_ERROR"
  | critical => "LOG_LEVEL_CRITICAL"

/-- A log record. -/
structure Record where
  timestamp : Timestamp
  rpcId : String
  service : String
  method : String
  sequence : UInt64
  kind : EventKind
  side : Side
  level : Level
  authority : Option String
  peer : Option Address
  timeout : Option Duration
  metadata : Option Metadata
  message : Option Bytes
  payloadSize : UInt64
  truncated : Bool
  statusCode : Option UInt32
  statusMessage : Option String
  deriving DecidableEq, Repr

end CallLog
