import CallLog.Call.Ceiling
import CallLog.Cloud.Error
import CallLog.Config.Environment

/-!
# Settings

What the cloud sink and the library as a whole are set up with, the defaults, and what the
environment overrides.
-/

namespace CallLog

/-! ## Cloud logging -/

/-- Settings of the cloud sink; the time limit of a request is in milliseconds. -/
structure CloudSettings where
  project : Option String
  endpoint : String
  token : Option String
  timeoutMs : Nat
  deriving DecidableEq, Repr

namespace CloudSettings

/-- The public address of the service. -/
def publicEndpoint : String := "https://logging.googleapis.com"

/-- The default time limit of a request is ten seconds. -/
def defaultTimeoutMs : Nat := 10000

/-- No project, the public service, no token. -/
def default : CloudSettings := ⟨none, publicEndpoint, none, defaultTimeoutMs⟩

/-- The settings for a project with endpoint and token from the environment; an empty token is
none. -/
def ofEnvironment (env : Environment) (project : Option String) : CloudSettings where
  project := project
  endpoint := env.getD Environment.endpointVariable publicEndpoint
  token := env.nonempty? Environment.tokenVariable
  timeoutMs := defaultTimeoutMs

end CloudSettings

/-- The project to log to: the given one, or the first that a variable names. Empty names do not
count. -/
def resolveProject (env : Environment) (given : Option String) : Except CloudError String :=
  match given.filter (· ≠ "") <|> env.nonempty? Environment.projectVariable
      <|> env.nonempty? Environment.legacyProjectVariable with
  | some project => .ok project
  | none => .error .missingProject

/-! ## The library -/

/-- Settings of the library: the DSN of the sink, the ceilings, and whether diagnostics go to the
console as well. -/
structure Settings where
  dsn : String
  ceilings : Ceilings
  console : Bool
  deriving DecidableEq, Repr

namespace Settings

/-- The cloud sink with a project from the environment, no ceilings, diagnostics on the console. -/
def default : Settings := ⟨"cloudlogging://", .unlimited, true⟩

/-- The default settings with the DSN that the environment gives, if any. -/
def ofEnvironment (env : Environment) : Settings :=
  { default with dsn := env.getD Environment.dsnVariable default.dsn }

end Settings
end CallLog
