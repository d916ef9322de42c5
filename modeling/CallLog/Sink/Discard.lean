import CallLog.Sink.Basic

/-!
# Discarding sink

Drops every record, open or closed.
-/

namespace CallLog

/-- The only state of the discarding sink. -/
structure DiscardSink where
  deriving DecidableEq, Repr

instance : Sink DiscardSink where
  write sink _ := .silent sink
  close sink := .silent sink

end CallLog
