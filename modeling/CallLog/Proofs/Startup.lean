import CallLog.Json.RoundTrip
import CallLog.Proofs.Bisimulation
import CallLog.Proofs.Configuration
import CallLog.Proofs.FullUrls
import CallLog.Proofs.HttpRequests

/-!
# Setting up, from environment and DSN to requests

Setting up comes to one of three things (`Settings.start_cases`): the scheme is unknown, a cloud sink
has no project, or there is a session, on the cloud sink just if the DSN has its scheme. A session on
the cloud sink then logs to the project that was chosen, at the endpoint and with the token of the
environment, whatever is done in it (`Posts`, `CloudSink.posts_applyAll`). `Settings.start_resolves` puts
both together.
-/

namespace CallLog

/-! ## Outcomes of setting up -/

namespace Settings

variable {settings : Settings} {env : Environment} {backend : Backend} {clock : Int}

/-- The cloud sink that is set up for a project. -/
def cloudSink (env : Environment) (backend : Backend) (project : String) : CloudSink HttpClient :=
  .ofClient project
    ⟨env.getD "RPC_LOG_SINK_ENDPOINT" CloudSettings.publicEndpoint,
      env.nonempty? "RPC_LOG_SINK_ACCESS_TOKEN", backend⟩

theorem start_of_hasSegment {segment : String} (h : Dsn.HasSegment settings.dsn segment) :
    settings.start env backend clock
      = (env.project? segment).elim (.error (.cloud .missingProject)) fun project =>
          .ok (.noting (.sinkReady ⟨.cloud, settings.dsn⟩)
            ⟨⟨clock, settings.ceilings⟩, .cloud (cloudSink env backend project)⟩) := by
  obtain ⟨dsn, hparse⟩ : ∃ dsn, Dsn.parse? settings.dsn = some dsn := by
    rw [← Option.ne_none_iff_exists']
    intro hnone
    exact Dsn.parse?_eq_none_iff.1 hnone _ (List.mem_cons_self ..) h.beginsWith
  have hkind := (Dsn.kind_eq_cloud_iff hparse).2 h.beginsWith
  have htext := Dsn.text_of_parse? hparse
  obtain ⟨kind, text⟩ := dsn
  obtain rfl : kind = .cloud := hkind
  obtain rfl : text = settings.dsn := htext
  have hproject : Dsn.project? ⟨.cloud, settings.dsn⟩ = Dsn.segment? settings.dsn := if_pos rfl
  simp only [start, hparse, ConfiguredSink.ofDsn, CloudSink.connect, CloudSettings.ofEnvironment,
    hproject, resolveProject_of_hasSegment h]
  cases env.project? segment <;> rfl

theorem start_of_parse?_eq_none (h : Dsn.parse? settings.dsn = none) :
    settings.start env backend clock = .error .unknownScheme := by
  rw [start, h]

/-- Sinks that only need their scheme are always set up. -/
theorem exists_start_of_not_cloud {dsn : Dsn} (h : Dsn.parse? settings.dsn = some dsn)
    (hkind : dsn.kind ≠ .cloud) : ∃ ready, settings.start env backend clock = .ok ready := by
  obtain ⟨kind, text⟩ := dsn
  rw [start, h]
  cases kind with
  | cloud => exact absurd rfl hkind
  | discard | memory => exact ⟨_, rfl⟩

/-- **Outcomes of setting up**: an unknown scheme, a cloud sink for which there is no project or one,
or a sink that needs none. -/
theorem start_cases (settings : Settings) (env : Environment) (backend : Backend) (clock : Int) :
    (settings.start env backend clock = .error .unknownScheme
        ∧ ∀ scheme ∈ ["cloudlogging://", "noop://", "memory://"],
          ¬Dsn.BeginsWith scheme settings.dsn)
      ∨ (∃ segment, Dsn.HasSegment settings.dsn segment ∧
          (settings.start env backend clock = .error (.cloud .missingProject)
              ∧ env.ChoosesNone segment
            ∨ ∃ project, settings.start env backend clock
                = .ok (.noting (.sinkReady ⟨.cloud, settings.dsn⟩)
                  ⟨⟨clock, settings.ceilings⟩, .cloud (cloudSink env backend project)⟩)
              ∧ env.Chooses segment project))
      ∨ ((∃ ready, settings.start env backend clock = .ok ready)
        ∧ ¬Dsn.BeginsWith "cloudlogging://" settings.dsn) := by
  cases hparse : Dsn.parse? settings.dsn with
  | none => exact .inl ⟨start_of_parse?_eq_none hparse, Dsn.parse?_eq_none_iff.1 hparse⟩
  | some dsn =>
    right
    by_cases hcloud : Dsn.BeginsWith "cloudlogging://" settings.dsn
    · left
      obtain ⟨segment, hsegment⟩ := hcloud.exists_hasSegment
      refine ⟨segment, hsegment, ?_⟩
      rw [start_of_hasSegment hsegment]
      cases hproject : env.project? segment with
      | none => exact .inl ⟨rfl, Environment.project?_eq_none_iff.1 hproject⟩
      | some project => exact .inr ⟨project, rfl, Environment.project?_eq_some_iff.1 hproject⟩
    · right
      have hkind : dsn.kind ≠ .cloud := fun h => hcloud ((Dsn.kind_eq_cloud_iff hparse).1 h)
      exact ⟨exists_start_of_not_cloud hparse hkind, hcloud⟩

theorem start_eq_unknownScheme_iff :
    settings.start env backend clock = .error .unknownScheme
      ↔ ∀ scheme ∈ ["cloudlogging://", "noop://", "memory://"],
        ¬Dsn.BeginsWith scheme settings.dsn := by
  constructor
  · intro h
    obtain ⟨-, hnone⟩ | ⟨segment, -, ⟨hmissing, -⟩ | ⟨project, hok, -⟩⟩ | ⟨⟨ready, hok⟩, -⟩ :=
      settings.start_cases env backend clock
    · exact hnone
    · cases hmissing.symm.trans h
    · cases hok.symm.trans h
    · cases hok.symm.trans h
  · intro hnone
    exact start_of_parse?_eq_none (Dsn.parse?_eq_none_iff.2 hnone)

theorem start_eq_missingProject_iff :
    settings.start env backend clock = .error (.cloud .missingProject)
      ↔ Dsn.HasSegment settings.dsn "" ∧ env.Lacks "GOOGLE_CLOUD_PROJECT"
        ∧ env.Lacks "GCLOUD_PROJECT" := by
  constructor
  · intro h
    obtain ⟨hunknown, -⟩ | ⟨segment, hsegment, ⟨-, hnone⟩ | ⟨project, hok, -⟩⟩ | ⟨⟨ready, hok⟩, -⟩ :=
      settings.start_cases env backend clock
    · cases hunknown.symm.trans h
    · obtain ⟨rfl, hlacks⟩ := hnone
      exact ⟨hsegment, hlacks⟩
    · cases hok.symm.trans h
    · cases hok.symm.trans h
  · rintro ⟨hsegment, hlacks⟩
    have hnone : env.project? "" = none := Environment.project?_eq_none_iff.2 ⟨rfl, hlacks⟩
    rw [start_of_hasSegment hsegment, hnone, Option.elim_none]

/-- With the cloud scheme a session has the cloud sink of the project that is chosen. -/
theorem exists_project_of_start {ready : Traced (Session ConfiguredSink)}
    (h : settings.start env backend clock = .ok ready)
    (hcloud : Dsn.BeginsWith "cloudlogging://" settings.dsn) :
    ∃ segment project, Dsn.HasSegment settings.dsn segment ∧ env.Chooses segment project
      ∧ ready.value.sink = .cloud (cloudSink env backend project) := by
  obtain ⟨hunknown, -⟩ | ⟨segment, hsegment, ⟨hmissing, -⟩ | ⟨project, hok, hchooses⟩⟩
    | ⟨-, hother⟩ := settings.start_cases env backend clock
  · cases hunknown.symm.trans h
  · cases hmissing.symm.trans h
  · obtain rfl := Except.ok.inj (hok.symm.trans h)
    exact ⟨segment, project, hsegment, hchooses, rfl⟩
  · exact absurd hcloud hother

end Settings

/-! ## Requests of a session on the cloud sink -/

theorem ConfiguredSink.applyAll_cloud (sink : CloudSink HttpClient) (ops : List SinkOp) :
    Sink.applyAll (ConfiguredSink.cloud sink) ops = .cloud (Sink.applyAll sink ops) := by
  induction ops generalizing sink with
  | nil => rfl
  | cons op ops ih =>
    rw [Sink.applyAll_cons, apply_cloud, Traced.map, ih, Sink.applyAll_cons]

/-- The object that is posted for a record: one entry in a log. -/
def CloudSink.posted (logName : String) (record : Record) : Json :=
  .obj [("entries", .arr [.obj [("logName", .str logName),
    ("resource", .obj [("type", .str "global")]),
    ("severity", .str (Severity.ofLevel record.level).label),
    ("jsonPayload", record.payload)]])]

theorem CloudSink.parse?_bodyOf (logName : String) (record : Record) :
    Json.parse? (HttpClient.bodyOf [.ofRecord logName record]) = some (posted logName record) := by
  have hbody : HttpClient.bodyOf [.ofRecord logName record] = (posted logName record).render := rfl
  rw [hbody, Json.parse?_render]

/-- A sink is where a history leads a cloud sink for a log, with the endpoint and the token of an
environment, and the backend has got requests from it. -/
structure Posts (env : Environment) (backend : Backend) (logName : String) (ops : List SinkOp)
    (sink : ConfiguredSink) (sent : List HttpRequest) : Prop where
  /-- The sink belongs to the log, and its client has received the calls of the history. -/
  leads : ∃ endpoint token,
    env.Gives "RPC_LOG_SINK_ENDPOINT" "https://logging.googleapis.com" endpoint
      ∧ (∀ text, token = some text ↔ env.Sets "RPC_LOG_SINK_ACCESS_TOKEN" text ∧ text ≠ "")
      ∧ sink = .cloud ⟨logName,
          Client.receiveAll ⟨endpoint, token, backend⟩ (CloudSink.clientCalls logName ops),
          decide (SinkOp.close ∈ ops)⟩
  received : sink.requests = backend.received ++ sent
  /-- Each request is for one record, in the log. -/
  bodies : ∀ request ∈ sent, ∃ record ∈ CloudSink.submittedRecords ops,
    Json.parse? request.body = some (CloudSink.posted logName record)
  authorized : ∀ request ∈ sent, ∀ value, request.authorization = some value ↔
    ∃ token, env.Sets "RPC_LOG_SINK_ACCESS_TOKEN" token ∧ token ≠ "" ∧ value = "Bearer " ++ token
  /-- With a base for its endpoint, a backend that listens there and a token without control
  characters, there is a request for every record. -/
  complete : backend.library.ReadsPaths → ∀ endpoint origin,
    env.Gives "RPC_LOG_SINK_ENDPOINT" "https://logging.googleapis.com" endpoint →
    backend.library.base? endpoint = some origin → backend.origin = some origin →
    (∀ token, env.Sets "RPC_LOG_SINK_ACCESS_TOKEN" token →
      ∀ c ∈ token.toList, 0x20 ≤ c.toNat ∧ c.toNat ≠ 0x7F) →
    (sent.map fun request => Json.parse? request.body)
      = (CloudSink.submittedRecords ops).map fun record => some (CloudSink.posted logName record)

namespace CloudSink

/-- The requests that a client makes for records in a log, one for each. -/
def requestsFor (client : HttpClient) (logName : String) (records : List Record) :
    List HttpRequest :=
  client.route?.elim [] fun route =>
    records.map fun record => HttpClient.requestOf route.1 route.2 [.ofRecord logName record]

/-- What a history of operations leaves at the backend of an open sink. -/
theorem received_applyAll {sink : CloudSink HttpClient} (hopen : sink.closed = false)
    (ops : List SinkOp) :
    (Sink.applyAll sink ops).client.backend.received
      = sink.client.backend.received
        ++ requestsFor sink.client sink.logName (submittedRecords ops) := by
  rw [applyAll_of_open hopen, HttpClient.received_receiveAll, requestsFor]
  cases sink.client.route? with
  | none => rfl
  | some route =>
    rw [Option.elim_some, Option.elim_some, flatMap_clientCalls _ rfl, List.map_eq_flatMap]
    rfl

variable {client : HttpClient} {logName : String} {records : List Record}

theorem exists_of_mem_requestsFor {request : HttpRequest}
    (h : request ∈ requestsFor client logName records) :
    (∃ record ∈ records, Json.parse? request.body = some (posted logName record))
      ∧ request.authorization = client.token.map ("Bearer " ++ ·) := by
  unfold requestsFor at h
  cases hroute : client.route? with
  | none =>
    rw [hroute] at h
    cases h
  | some route =>
    obtain ⟨target, authorization⟩ := route
    rw [hroute, Option.elim_some] at h
    obtain ⟨record, hrecord, rfl⟩ := List.mem_map.1 h
    obtain ⟨-, htoken⟩ := HttpClient.route?_eq_some_iff.1 hroute
    exact ⟨⟨record, hrecord, parse?_bodyOf logName record⟩,
      HttpClient.eq_map_of_authorization? htoken⟩

theorem bodies_requestsFor {route : String × Option String} (h : client.route? = some route) :
    ((requestsFor client logName records).map fun request => Json.parse? request.body)
      = records.map fun record => some (posted logName record) := by
  rw [requestsFor, h, Option.elim_some, List.map_map]
  refine List.map_congr_left fun record _ => ?_
  rw [Function.comp_apply, HttpClient.requestOf, parse?_bodyOf]

theorem logName_cloudSink (env : Environment) (backend : Backend) (project : String) :
    (Settings.cloudSink env backend project).logName
      = "projects/" ++ project ++ "/logs/grpc" := by
  rw [Settings.cloudSink, ofClient, logNameOf, stream, String.append_assoc, String.append_assoc]
  rfl

/-- **What a session on the cloud sink posts**, whatever is done in it. -/
theorem posts_applyAll (env : Environment) (backend : Backend) (project : String)
    (ops : List SinkOp) :
    let sink := Settings.cloudSink env backend project
    Posts env backend sink.logName ops (Sink.applyAll (ConfiguredSink.cloud sink) ops)
      (requestsFor sink.client sink.logName (submittedRecords ops)) := by
  intro sink
  have hopen : sink.closed = false := rfl
  have hendpoint (endpoint : String) : sink.client.endpoint = endpoint
      ↔ env.Gives "RPC_LOG_SINK_ENDPOINT" CloudSettings.publicEndpoint endpoint :=
    Environment.getD_eq_iff (by decide)
  have htoken (text : String) :
      sink.client.token = some text ↔ env.Sets "RPC_LOG_SINK_ACCESS_TOKEN" text ∧ text ≠ "" :=
    Environment.nonempty?_eq_some_iff (by decide)
  refine ⟨?_, ?_, ?_, ?_, ?_⟩
  · refine ⟨sink.client.endpoint, sink.client.token, (hendpoint _).1 rfl, htoken, ?_⟩
    rw [ConfiguredSink.applyAll_cloud, applyAll_of_open hopen]
    rfl
  · rw [ConfiguredSink.applyAll_cloud]
    exact received_applyAll hopen ops
  · exact fun request hmem => (exists_of_mem_requestsFor hmem).1
  · intro request hmem value
    obtain ⟨-, hauthorization⟩ := exists_of_mem_requestsFor hmem
    rw [hauthorization, Option.map_eq_some_iff]
    simp only [htoken, and_assoc, eq_comm]
  · intro hlibrary endpoint origin hgives hbase horigin hchars
    obtain rfl := (hendpoint endpoint).2 hgives
    have hcarriable : HttpClient.Carriable sink.client.token :=
      HttpClient.carriable_of_no_control fun text htext => hchars text ((htoken text).1 htext).1
    obtain ⟨target, -, hroute⟩ :=
      HttpClient.exists_route?_of_base hlibrary hbase horigin hcarriable
    exact bodies_requestsFor hroute

end CloudSink

/-! ## From configuration to requests -/

/-- **A configuration resolves end to end.** The DSN of an environment is the text of its variable, or
the default. Setting up fails for an unknown scheme just if the DSN begins with none of the three, and
for want of a project just if it has the cloud scheme and neither its segment nor the two variables are
a text that is not empty; otherwise there is a session. If that is on the cloud sink, the sink belongs
to the log of the first such project, and whatever is done in it posts records in that log only, at the
endpoint and with the token of the environment. -/
theorem Settings.start_resolves (settings : Settings) (env : Environment) (backend : Backend)
    (clock : Int) :
    let started := settings.start env backend clock
    (∀ text, (Settings.ofEnvironment env).dsn = text ↔
        env.Gives "RPC_LOG_SINK_DSN" "cloudlogging://" text)
      ∧ (started = .error .unknownScheme ↔
          ∀ scheme ∈ ["cloudlogging://", "noop://", "memory://"],
            ¬Dsn.BeginsWith scheme settings.dsn)
      ∧ (started = .error (.cloud .missingProject) ↔
          Dsn.HasSegment settings.dsn "" ∧ env.Lacks "GOOGLE_CLOUD_PROJECT"
            ∧ env.Lacks "GCLOUD_PROJECT")
      ∧ (started = .error .unknownScheme ∨ started = .error (.cloud .missingProject)
          ∨ ∃ ready, started = .ok ready)
      ∧ ∀ ready, started = .ok ready → Dsn.BeginsWith "cloudlogging://" settings.dsn →
          ∃ segment project, Dsn.HasSegment settings.dsn segment ∧ env.Chooses segment project
            ∧ ∀ actions, ∃ sent, Posts env backend ("projects/" ++ project ++ "/logs/grpc")
                (ready.value.logger.ops actions) (ready.value.after actions).sink sent := by
  intro started
  refine ⟨?_, start_eq_unknownScheme_iff, start_eq_missingProject_iff, ?_, ?_⟩
  · intro text
    exact Environment.getD_eq_iff (by decide)
  · obtain ⟨hunknown, -⟩ | ⟨segment, -, ⟨hmissing, -⟩ | ⟨project, hok, -⟩⟩ | ⟨hok, -⟩ :=
      settings.start_cases env backend clock
    · exact .inl hunknown
    · exact .inr (.inl hmissing)
    · exact .inr (.inr ⟨_, hok⟩)
    · exact .inr (.inr hok)
  · intro ready hready hcloud
    obtain ⟨segment, project, hsegment, hchooses, hsink⟩ := exists_project_of_start hready hcloud
    refine ⟨segment, project, hsegment, hchooses, fun actions => ?_⟩
    have hposts := CloudSink.posts_applyAll env backend project (ready.value.logger.ops actions)
    dsimp only at hposts
    rw [CloudSink.logName_cloudSink] at hposts
    rw [Session.after_eq, hsink]
    exact ⟨_, hposts⟩

/-- A scheme in mixed case, an empty segment before a slash, a first variable that is no text, and no
endpoint: the project is that of the second variable, and every record is posted to the public address,
with the token. -/
theorem Settings.start_resolves_past_undecodable_project :
    let env : Environment := ⟨[
      ("RPC_LOG_SINK_DSN", Text.Utf8.encode "CloudLogging:///x"),
      ("GOOGLE_CLOUD_PROJECT", [0xFF]),
      ("GCLOUD_PROJECT", Text.Utf8.encode "legacy"),
      ("RPC_LOG_SINK_ACCESS_TOKEN", Text.Utf8.encode "secret")]⟩
    let backend := Backend.listening .naming "https://logging.googleapis.com" []
    ∃ ready, (Settings.ofEnvironment env).start env backend 5 = .ok ready
      ∧ ∀ actions,
          let records := CloudSink.submittedRecords (ready.value.logger.ops actions)
          ∃ sent, (ready.value.after actions).sink.requests = sent
            ∧ (sent.map fun request => Json.parse? request.body)
              = records.map (fun record => some (.obj [("entries", .arr [.obj [
                  ("logName", .str "projects/legacy/logs/grpc"),
                  ("resource", .obj [("type", .str "global")]),
                  ("severity", .str (Severity.ofLevel record.level).label),
                  ("jsonPayload", record.payload)]])]))
            ∧ ∀ request ∈ sent, request.authorization = some "Bearer secret" := by
  intro env backend
  have hset : env.Sets "RPC_LOG_SINK_DSN" "CloudLogging:///x" ∧ env.Sets "GCLOUD_PROJECT" "legacy"
      ∧ env.Sets "RPC_LOG_SINK_ACCESS_TOKEN" "secret" := by decide
  obtain ⟨hdsn, hlegacy, htoken⟩ := hset
  have hendpoint : env.Gives "RPC_LOG_SINK_ENDPOINT" "https://logging.googleapis.com"
      "https://logging.googleapis.com" := .inr ⟨nofun, rfl⟩
  have hproject : env.project? "" = some "legacy" := by decide
  have hsegment : Dsn.HasSegment "CloudLogging:///x" "" :=
    ⟨"CloudLogging://", "/x", by decide, by decide, by decide, by simp⟩
  obtain ⟨htext, hunknown, hmissing, houtcome, hrun⟩ :=
    Settings.start_resolves (Settings.ofEnvironment env) env backend 5
  rw [(htext _).2 (.inl hdsn)] at hunknown hmissing hrun
  obtain ⟨ready, hready⟩ := (houtcome.resolve_left fun h =>
    hunknown.1 h _ (List.mem_cons_self ..) hsegment.beginsWith).resolve_left fun h =>
      absurd ((hmissing.1 h).2.2 _ hlegacy) (by decide)
  obtain ⟨segment, project, hother, hchooses, hposts⟩ := hrun ready hready hsegment.beginsWith
  obtain rfl := hother.unique hsegment
  have hsome := Environment.project?_eq_some_iff.2 hchooses
  obtain rfl := Option.some.inj (hsome.symm.trans hproject)
  refine ⟨ready, hready, fun actions => ?_⟩
  obtain ⟨sent, hsent⟩ := hposts actions
  refine ⟨sent, hsent.received, ?_, ?_⟩
  · refine hsent.complete (HttpLibrary.readsPaths_of_parse? rfl) _ "https://logging.googleapis.com"
      hendpoint (by decide) rfl ?_
    intro token htoken' c hc
    obtain rfl := htoken'.unique htoken
    exact HttpClient.no_control_of_all (by decide) c hc
  · intro request hmem
    exact (hsent.authorized request hmem _).2 ⟨_, htoken, by decide, rfl⟩

end CallLog
