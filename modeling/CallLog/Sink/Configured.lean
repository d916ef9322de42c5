import CallLog.Cloud.HttpClient
import CallLog.Config.Settings
import CallLog.Sink.Cloud
import CallLog.Sink.Discard
import CallLog.Sink.Memory

/-!
# Configured sinks

The sink that a DSN selects. Only the cloud sink can fail to be set up, and only for want of a
project.
-/

namespace CallLog

/-- Opens the cloud sink over HTTP with its settings. The time limit sets how long a request waits; a
silent reply of the backend is one that outlasts it. -/
def CloudSink.connect (env : Environment) (settings : CloudSettings) (backend : Backend) :
    Except CloudError (CloudSink HttpClient) :=
  match resolveProject env settings.project with
  | .ok project => .ok (.ofClient project ⟨settings.endpoint, settings.token, backend⟩)
  | .error error => .error error

/-- A sink of any kind that a DSN can select. -/
inductive ConfiguredSink where
  | discard (sink : DiscardSink)
  | memory (sink : MemorySink)
  | cloud (sink : CloudSink HttpClient)

namespace ConfiguredSink

/-- The sink of a DSN; endpoint, token and, if need be, the project of a cloud sink come from the
environment. -/
def ofDsn (env : Environment) (backend : Backend) (dsn : Dsn) :
    Except CloudError ConfiguredSink :=
  match dsn.kind with
  | .discard => .ok (.discard ⟨⟩)
  | .memory => .ok (.memory .empty)
  | .cloud =>
    match CloudSink.connect env (.ofEnvironment env dsn.project?) backend with
    | .ok sink => .ok (.cloud sink)
    | .error error => .error error

instance : Sink ConfiguredSink where
  write
    | discard sink, record => (Sink.write sink record).map discard
    | memory sink, record => (Sink.write sink record).map memory
    | cloud sink, record => (Sink.write sink record).map cloud
  close
    | discard sink => (Sink.close sink).map discard
    | memory sink => (Sink.close sink).map memory
    | cloud sink => (Sink.close sink).map cloud
  held
    | discard sink => Sink.held sink
    | memory sink => Sink.held sink
    | cloud sink => Sink.held sink
  drain
    | discard sink => discard (Sink.drain sink)
    | memory sink => memory (Sink.drain sink)
    | cloud sink => cloud (Sink.drain sink)

/-- The requests that the backend of a sink has received. -/
def requests : ConfiguredSink → List HttpRequest
  | discard _ => []
  | memory _ => []
  | cloud sink => sink.client.backend.received

end ConfiguredSink
end CallLog
