import CallLog.Record.Json

/-!
# Cloud log entries

What the cloud logging service takes for one record: the log it belongs to, the resource it is
about, a severity, and the record as a JSON payload.
-/

namespace CallLog

/-- The severity scale of the service. -/
inductive Severity where
  | default
  | debug
  | info
  | warning
  | error
  | critical
  deriving DecidableEq, Repr

namespace Severity

/-- The severity of a record's level. -/
def ofLevel : Level → Severity
  | .trace | .debug => debug
  | .info => info
  | .warn => warning
  | .error => error
  | .critical => critical
  | .unknown => default

/-- The name of a severity in an entry. -/
def label : Severity → String
  | default => "DEFAULT"
  | debug => "DEBUG"
  | info => "INFO"
  | warning => "WARNING"
  | error => "ERROR"
  | critical => "CRITICAL"

/-- A severity as JSON. -/
def toJson (severity : Severity) : Json := .str severity.label

end Severity

/-- A log entry of the service. -/
structure Entry where
  logName : String
  resource : String
  severity : Severity
  payload : Json

namespace Entry

/-- The resource type of entries that are not about one resource. -/
def globalResource : String := "global"

/-- The entry of a record in a log. -/
def ofRecord (logName : String) (record : Record) : Entry where
  logName := logName
  resource := globalResource
  severity := .ofLevel record.level
  payload := record.payload

/-- The entry as an object with members in the order of its fields. -/
def toJson (entry : Entry) : Json :=
  .obj (Json.member "logName" (.str entry.logName)
    ++ Json.member "resource" (.obj (Json.member "type" (.str entry.resource)))
    ++ Json.member "severity" entry.severity.toJson
    ++ Json.member "jsonPayload" entry.payload)

/-- The text of an entry. -/
def text (entry : Entry) : String := entry.toJson.render

end Entry
end CallLog
