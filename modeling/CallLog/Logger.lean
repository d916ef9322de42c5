import CallLog.Call.Ceiling
import CallLog.Record.Basic

/-!
# Record assembly

A logger turns call events into records. It has a clock and ceilings and nothing else: a record
depends on the event, the clock's reading and the ceilings only. An event that breaks the contract
is refused and has no record.
-/

namespace CallLog

/-- A clock, in nanoseconds since 1970, and the ceilings on embedded payloads. -/
structure Logger where
  clock : Int
  ceilings : Ceilings
  deriving DecidableEq, Repr

namespace Record

/-- The record of an event without anything that only some kinds of event have. -/
def blank (timestamp : Timestamp) (info : CallInfo) (kind : EventKind) : Record where
  timestamp := timestamp
  rpcId := info.rpcId
  service := info.service
  method := info.method
  sequence := info.sequence
  kind := kind
  side := info.side
  level := .debug
  authority := none
  peer := none
  timeout := none
  metadata := none
  message := none
  payloadSize := 0
  truncated := false
  statusCode := none
  statusMessage := none

/-- The record with embedded metadata and its accounting. -/
def withMetadata (record : Record) (embedded : Embedded Metadata) : Record :=
  { record with
    metadata := some embedded.content
    payloadSize := UInt64.ofNat embedded.size
    truncated := embedded.truncated }

/-- The record with an embedded message and its accounting. -/
def withMessage (record : Record) (embedded : Embedded Bytes) : Record :=
  { record with
    message := some embedded.content
    payloadSize := UInt64.ofNat embedded.size
    truncated := embedded.truncated }

end Record

namespace Logger

/-- The record of a call event, whether or not the event keeps the contract. -/
def record (logger : Logger) (call : Call) : Record :=
  let base := Record.blank (.ofClock logger.clock) call.info call.event.kind
  let described (metadata : Metadata) : Record :=
    base.withMetadata (metadata.embed logger.ceilings.metadata)
  match call.event with
  | .requestHeader authority timeout metadata peer =>
    { described metadata with
      authority := some authority
      timeout := timeout
      peer := peer.map Address.ofPeer }
  | .responseHeader metadata peer =>
    { described metadata with peer := peer.map Address.ofPeer }
  | .trailer status metadata peer =>
    { described metadata with
      peer := peer.map Address.ofPeer
      statusCode := some status.code.value
      statusMessage := status.message? }
  | .message _ body => base.withMessage (Message.embed logger.ceilings.message body)

/-- The record of a call event, or the breach of the contract that keeps it from having one. -/
def assemble (logger : Logger) (call : Call) : Except InvalidCall Record :=
  match call.violation? with
  | some violation => .error violation
  | none => .ok (logger.record call)

/-- Whether an event is accepted does not depend on the logger. -/
theorem assemble_eq_error_iff (logger : Logger) (call : Call) (violation : InvalidCall) :
    logger.assemble call = .error violation ↔ call.violation? = some violation := by
  unfold assemble; split <;> simp_all

theorem assemble_eq_ok_iff (logger : Logger) (call : Call) (record : Record) :
    logger.assemble call = .ok record ↔ call.violation? = none ∧ logger.record call = record := by
  unfold assemble; split <;> simp_all

/-! ## What records keep of their events -/

@[simp] theorem rpcId_record (logger : Logger) (call : Call) :
    (logger.record call).rpcId = call.info.rpcId := by
  unfold record; cases call.event <;> rfl

@[simp] theorem service_record (logger : Logger) (call : Call) :
    (logger.record call).service = call.info.service := by
  unfold record; cases call.event <;> rfl

@[simp] theorem kind_record (logger : Logger) (call : Call) :
    (logger.record call).kind = call.event.kind := by
  unfold record; cases call.event <;> rfl

@[simp] theorem level_record (logger : Logger) (call : Call) :
    (logger.record call).level = .debug := by
  unfold record; cases call.event <;> rfl

end Logger
end CallLog
