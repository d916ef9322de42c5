import CallLog.Sink.Basic

/-!
# Memory sink

Keeps every record written before it is closed. Held records can still be read and drained after
that; a late write is dropped with a warning, and closing again only warns.
-/

namespace CallLog

/-- The records held and whether the sink is closed. -/
structure MemorySink where
  records : List Record
  closed : Bool
  deriving DecidableEq, Repr

namespace MemorySink

/-- An open sink without records. -/
def empty : MemorySink := ⟨[], false⟩

/-- Keeps a record, or warns that it comes too late. -/
def write (sink : MemorySink) (record : Record) : Traced MemorySink :=
  if sink.closed then .noting (.memoryWriteAfterClose record.rpcId) sink
  else .silent { sink with records := sink.records ++ [record] }

/-- Closes the sink, or warns that it is closed already. -/
def close (sink : MemorySink) : Traced MemorySink :=
  if sink.closed then .noting .memoryCloseAfterClose sink
  else .silent { sink with closed := true }

/-- Forgets the records held. -/
def drain (sink : MemorySink) : MemorySink := { sink with records := [] }

instance : Sink MemorySink where
  write := write
  close := close
  held := records
  drain := drain

end MemorySink
end CallLog
