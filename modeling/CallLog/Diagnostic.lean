import CallLog.Call.Event
import CallLog.Cloud.Error
import CallLog.Config.Dsn

/-!
# Diagnostics

What the library reports about itself while it works. Writing and closing a sink never fail for the
caller, so a diagnostic is the only trace that a lost record leaves. Each diagnostic has a level, a
message and named fields; `Traced` is a result together with the diagnostics on the way to it.
-/

namespace CallLog

/-- Something worth reporting. -/
inductive Diagnostic where
  | handingOver (rpcId : String) (sequence : UInt64) (kind : EventKind)
  | memoryWriteAfterClose (rpcId : String)
  | memoryCloseAfterClose
  | cloudWrite (kind : EventKind)
  | cloudWriteFailed (error : CloudError) (rpcId : String)
  | cloudWriteAfterClose (rpcId : String)
  | cloudCloseFailed (error : CloudError)
  | cloudCloseAfterClose
  | sinkReady (dsn : Dsn)
  deriving DecidableEq, Repr

namespace Diagnostic

/-! ## Levels -/

/-- How severe a diagnostic is, the most severe first. -/
inductive Level where
  | error
  | warn
  | info
  | debug
  | trace
  deriving DecidableEq, Repr

/-- The name of a level. -/
def Level.name : Level → String
  | error => "ERROR"
  | warn => "WARN"
  | info => "INFO"
  | debug => "DEBUG"
  | trace => "TRACE"

/-- The number of levels that are more severe. -/
def Level.rank : Level → Nat
  | error => 0
  | warn => 1
  | info => 2
  | debug => 3
  | trace => 4

/-- The level of a diagnostic. -/
def level : Diagnostic → Level
  | handingOver .. => .trace
  | memoryWriteAfterClose _ => .warn
  | memoryCloseAfterClose => .warn
  | cloudWrite _ => .trace
  | cloudWriteFailed .. => .error
  | cloudWriteAfterClose _ => .error
  | cloudCloseFailed _ => .error
  | cloudCloseAfterClose => .warn
  | sinkReady _ => .debug

/-- The diagnostics of a level or of a more severe one. -/
def atLeast (threshold : Level) (diagnostics : List Diagnostic) : List Diagnostic :=
  diagnostics.filter (·.level.rank ≤ threshold.rank)

/-! ## Text -/

/-- The message of a diagnostic. -/
def message : Diagnostic → String
  | handingOver .. => "handing rpc event to sink"
  | memoryWriteAfterClose _ => "attempt to write after InMemorySink is closed"
  | memoryCloseAfterClose => "attempt to close after InMemorySink is closed"
  | cloudWrite _ => "writing rpc event to cloud logging"
  | cloudWriteFailed .. => "caught error while writing to cloud logging"
  | cloudWriteAfterClose _ => "attempt to write after CloudLoggingSink is closed"
  | cloudCloseFailed _ => "caught error while closing cloud logging client"
  | cloudCloseAfterClose => "attempt to close after CloudLoggingSink is closed"
  | sinkReady _ => "rpc log sink ready"

/-- The named fields of a diagnostic. -/
def fields : Diagnostic → List (String × String)
  | handingOver rpcId sequence kind =>
    [("rpc_id", rpcId), ("sequence_id", Text.number sequence.toNat), ("event_type", kind.name)]
  | memoryWriteAfterClose rpcId => [("rpc_id", rpcId)]
  | memoryCloseAfterClose => []
  | cloudWrite kind => [("event_type", kind.name)]
  | cloudWriteFailed error rpcId => [("error", error.message), ("rpc_id", rpcId)]
  | cloudWriteAfterClose rpcId => [("rpc_id", rpcId)]
  | cloudCloseFailed error => [("error", error.message)]
  | cloudCloseAfterClose => []
  | sinkReady dsn => [("dsn", dsn.text), ("kind", dsn.kind.name)]

end Diagnostic

/-! ## Results with diagnostics -/

/-- A result and the diagnostics on the way to it, in order. -/
structure Traced (α : Type) where
  value : α
  diagnostics : List Diagnostic

namespace Traced

variable {α β : Type}

/-- A result without diagnostics. -/
def silent (value : α) : Traced α := ⟨value, []⟩

/-- A result after one diagnostic. -/
def noting (diagnostic : Diagnostic) (value : α) : Traced α := ⟨value, [diagnostic]⟩

/-- The same diagnostics with a function of the result. -/
def map (f : α → β) (traced : Traced α) : Traced β := ⟨f traced.value, traced.diagnostics⟩

/-- The same result after one more diagnostic. -/
def after (diagnostic : Diagnostic) (traced : Traced α) : Traced α :=
  ⟨traced.value, diagnostic :: traced.diagnostics⟩

end Traced
end CallLog
