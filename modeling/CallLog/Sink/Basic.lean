import CallLog.Diagnostic
import CallLog.Record.Basic

/-!
# Sinks

A sink takes records until it is closed. Neither writing nor closing can fail for the caller: what
goes wrong shows in diagnostics. A sink may hold records for inspection; one that passes them on or
drops them holds none.
-/

namespace CallLog

/-- A destination for records with states `σ`. -/
class Sink (σ : Type) where
  /-- The sink after a record was written to it. -/
  write : σ → Record → Traced σ
  /-- The sink after it was closed. -/
  close : σ → Traced σ
  /-- The records that the sink holds, oldest first. -/
  held : σ → List Record := fun _ => []
  /-- The sink without the records that it holds. -/
  drain : σ → σ := id

end CallLog
