import CallLog.Session
import CallLog.Sink.Configured

/-!
# Setting up

From settings and environment to a session: the DSN selects the sink, and a diagnostic tells that it
is ready. Setting up fails for a DSN of unknown scheme and for a cloud sink without a project.
-/

namespace CallLog

/-- A reason why logging cannot be set up. -/
inductive SetupError where
  | unknownScheme
  | cloud (error : CloudError)
  deriving DecidableEq, Repr

/-- The text of a reason. -/
def SetupError.message : SetupError → String
  | unknownScheme => "unknown or unsupported DSN scheme"
  | cloud error => error.message

/-- The session that settings ask for, with the clock at a reading. -/
def Settings.start (settings : Settings) (env : Environment) (backend : Backend) (clock : Int) :
    Except SetupError (Traced (Session ConfiguredSink)) :=
  match Dsn.parse? settings.dsn with
  | none => .error .unknownScheme
  | some dsn =>
    match ConfiguredSink.ofDsn env backend dsn with
    | .error error => .error (.cloud error)
    | .ok sink => .ok (.noting (.sinkReady dsn) ⟨⟨clock, settings.ceilings⟩, sink⟩)

end CallLog
