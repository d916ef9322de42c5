import CallLog.Call.Metadata
import CallLog.Call.Status
import CallLog.Peer.Basic
import CallLog.Time.Duration

/-!
# Call events

What an interceptor reports about a call: who reports it, for which call, and what happened. The
contract is that a peer comes with a request header only from the server, with a response header
only from the client, and that a message event is a request or a response message.
`CallEvent.violation?` finds a breach of it.
-/

namespace CallLog

/-- What happens in the life of a call. -/
inductive EventKind where
  | requestHeader
  | responseHeader
  | trailer
  | requestMessage
  | responseMessage
  deriving DecidableEq, Repr

namespace EventKind

/-- The name of a kind of event. -/
def name : EventKind → String
  | requestHeader => "RequestHeader"
  | responseHeader => "ResponseHeader"
  | trailer => "Trailer"
  | requestMessage => "RequestMessage"
  | responseMessage => "ResponseMessage"

/-- The name of a kind of event in a record. -/
def label : EventKind → String
  | requestHeader => "GRPC_CALL_REQUEST_HEADER"
  | responseHeader => "GRPC_CALL_RESPONSE_HEADER"
  | trailer => "GRPC_CALL_TRAILER"
  | requestMessage => "GRPC_CALL_REQUEST_MESSAGE"
  | responseMessage => "GRPC_CALL_RESPONSE_MESSAGE"

/-- The kinds that carry a message. -/
def IsMessage (kind : EventKind) : Prop := kind = requestMessage ∨ kind = responseMessage

instance (kind : EventKind) : Decidable kind.IsMessage := by unfold IsMessage; infer_instance

end EventKind

/-- The end of the call that reports an event. -/
inductive Side where
  | client
  | server
  deriving DecidableEq, Repr

/-- The name of a side in a record. -/
def Side.label : Side → String
  | client => "LOGGER_CLIENT"
  | server => "LOGGER_SERVER"

/-- Which call an event belongs to, its place in it, and who reports it. -/
structure CallInfo where
  sequence : UInt64
  service : String
  method : String
  rpcId : String
  side : Side
  deriving DecidableEq, Repr

/-- What is reported about a call. -/
inductive CallEvent where
  | requestHeader (authority : String) (timeout : Option Duration) (metadata : Metadata)
      (peer : Option Peer)
  | responseHeader (metadata : Metadata) (peer : Option Peer)
  | trailer (status : Status) (metadata : Metadata) (peer : Option Peer)
  | message (kind : EventKind) (body : Bytes)
  deriving DecidableEq, Repr

/-- An event of a call. -/
structure Call where
  info : CallInfo
  event : CallEvent
  deriving DecidableEq, Repr

/-- The kind of an event. -/
def CallEvent.kind : CallEvent → EventKind
  | requestHeader .. => .requestHeader
  | responseHeader .. => .responseHeader
  | trailer .. => .trailer
  | message kind _ => kind

/-! ## The contract -/

/-- A breach of the contract on call events. -/
inductive InvalidCall where
  | peerFromClient
  | peerFromServer
  | notAMessage (kind : EventKind)
  deriving DecidableEq, Repr

/-- The text of a breach. -/
def InvalidCall.message : InvalidCall → String
  | peerFromClient => "invalid argument: peer address can only be specified by server"
  | peerFromServer => "invalid argument: peer address can only be specified for client"
  | notAMessage kind =>
    "invalid argument: event type must be a request or response message, got " ++ kind.name

/-- The breach of the contract by a side that reports an event, if any. -/
def CallEvent.violation? (side : Side) : CallEvent → Option InvalidCall
  | requestHeader _ _ _ peer =>
    if side = .client ∧ peer.isSome then some .peerFromClient else none
  | responseHeader _ peer =>
    if side = .server ∧ peer.isSome then some .peerFromServer else none
  | trailer .. => none
  | message kind _ => if kind.IsMessage then none else some (.notAMessage kind)

/-- The breach of the contract by a call event, if any. -/
def Call.violation? (call : Call) : Option InvalidCall :=
  call.event.violation? call.info.side

end CallLog
