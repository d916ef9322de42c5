import CallLog.Json.Printer
import CallLog.Record.Basic
import CallLog.Text.Base64

/-!
# Records as JSON

A record has two JSON forms of the same members: `toJson` in the order of its fields, which is its
own text, and `payload` in key order, which is what log entries carry. Absent fields are left out,
and so are a truncation mark that is not set and the entry list of empty metadata. Numbers of 64
bits travel as decimal strings and bytes as base64.
-/

namespace CallLog

/-- A byte string as base64. -/
def Bytes.toJson (bytes : Bytes) : Json := .str (String.ofList (Text.Base64.encode bytes))

/-- A 64-bit number as a decimal string. -/
def counterJson (n : UInt64) : Json := .str (Text.number n.toNat)

/-- A header as an object. -/
def Header.toJson (header : Header) : Json :=
  .obj (Json.member "key" (.str header.key) ++ Json.member "value" (Bytes.toJson header.value))

/-- Headers as an object; without headers it has no members. -/
def Metadata.toJson (metadata : Metadata) : Json :=
  .obj (if metadata.isEmpty then [] else Json.member "entry" (.arr (metadata.map Header.toJson)))

namespace Record

/-- The members of a record in the order of its fields. -/
def members (record : Record) : List (String × Json) :=
  Json.member "timestamp" (.str record.timestamp.text)
    ++ Json.member "rpc_id" (.str record.rpcId)
    ++ Json.member "service_name" (.str record.service)
    ++ Json.member "method_name" (.str record.method)
    ++ Json.member "sequence_id" (counterJson record.sequence)
    ++ Json.member "event_type" (.str record.kind.label)
    ++ Json.member "event_logger" (.str record.side.label)
    ++ Json.member "log_level" (.str record.level.label)
    ++ Json.member? "authority" .str record.authority
    ++ Json.member? "peer_address" Address.toJson record.peer
    ++ Json.member? "timeout" (fun timeout => .str timeout.text) record.timeout
    ++ Json.member? "metadata" Metadata.toJson record.metadata
    ++ Json.member? "message" Bytes.toJson record.message
    ++ Json.member "payload_size" (counterJson record.payloadSize)
    ++ (if record.truncated then Json.member "payload_truncated" (.bool true) else [])
    ++ Json.member? "status_code" (fun code => .int code.toNat) record.statusCode
    ++ Json.member? "status_message" .str record.statusMessage

/-- The record as an object with members in the order of its fields. -/
def toJson (record : Record) : Json := .obj record.members

/-- The record as an object with members in key order, at all levels. -/
def payload (record : Record) : Json := record.toJson.sortKeys

/-- The text of a record. -/
def text (record : Record) : String := record.toJson.render

end Record
end CallLog
