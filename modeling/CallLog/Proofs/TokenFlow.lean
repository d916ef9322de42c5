import CallLog.Proofs.Bisimulation
import CallLog.Proofs.HttpAnswers
import CallLog.Proofs.Startup

/-!
# The token goes into the authorization header and nowhere else

The library that carries the requests is taken not to name the token in what it says of failures
(`HttpLibrary.HidesTokens`); which texts it reads as URLs makes no difference. Then two clients that
differ in their tokens only (`HttpClient.SameButToken`) answer every call alike, and each request that
one of them makes is a request of the other with another authorization
(`HttpClient.bisimulation_sameButToken`). So sinks over such clients cannot be told apart, and no run of
a session shows which token it has, except in its requests (`Session.ShowsTokenOnly`). Setting up a
sink, with a token that is given (`CloudSink.connect_sameButToken`) or from the environment
(`Settings.start_sameButToken`), comes to the same for both tokens. `token_shows_in_authorization_only`
puts this together.
-/

namespace CallLog

/-- What a library says of a failure does not depend on the token of the request. -/
def HttpLibrary.HidesTokens (library : HttpLibrary) : Prop :=
  ∀ url token other failure, library.reason url token failure = library.reason url other failure

/-- A token that a header can carry: not empty, and without control characters other than tabs. -/
structure HttpClient.IsToken (text : String) : Prop where
  nonempty : text ≠ ""
  carriable : Carriable (some text)

/-- The request with the authorization that a token makes. -/
def HttpRequest.bearing (token : String) (request : HttpRequest) : HttpRequest :=
  { request with authorization := some ("Bearer " ++ token) }

/-- Two backends behind one library that listen at one origin, go on with the same replies, and have
received the same requests, each with its own token. -/
structure Backend.SameButToken (t₁ t₂ : String) (a b : Backend) : Prop where
  library : a.library = b.library
  hides : b.library.HidesTokens
  origin : a.origin = b.origin
  replies : a.replies = b.replies
  received : ∃ sent : List HttpRequest, a.received = sent.map (.bearing t₁)
    ∧ b.received = sent.map (.bearing t₂)

/-! ## Clients -/

namespace HttpClient

/-- Two clients of one endpoint with two tokens. -/
structure SameButToken (t₁ t₂ : String) (a b : HttpClient) : Prop where
  endpoint : a.endpoint = b.endpoint
  token₁ : a.token = some t₁
  token₂ : b.token = some t₂
  backend : a.backend.SameButToken t₁ t₂ b.backend

variable {t₁ t₂ : String} {a b : HttpClient}

theorem SameButToken.url?_eq (h : SameButToken t₁ t₂ a b) : a.url? = b.url? := by
  rw [url?, url?, h.endpoint, h.backend.library]

theorem SameButToken.reason_eq (h : SameButToken t₁ t₂ a b) : a.reason = b.reason := by
  funext failure
  rw [reason, reason, h.endpoint, h.backend.library]
  exact h.backend.hides _ _ _ _

theorem SameButToken.send (h : SameButToken t₁ t₂ a b) (h₁ : Carriable (some t₁))
    (h₂ : Carriable (some t₂)) (entries : List Entry) :
    (a.send entries).1 = (b.send entries).1
      ∧ SameButToken t₁ t₂ (a.send entries).2 (b.send entries).2 := by
  have htoken₁ := authorization?_of_carriable (h.token₁ ▸ h₁ : Carriable a.token)
  have htoken₂ := authorization?_of_carriable (h.token₂ ▸ h₂ : Carriable b.token)
  have hurl := h.url?_eq
  have hreason := h.reason_eq
  have horigin := h.backend.origin
  cases hread : b.url? with
  | none =>
    rw [send_of_no_url (hurl.trans hread), send_of_no_url hread, hreason]
    exact ⟨rfl, h⟩
  | some url =>
    by_cases hlistens : b.backend.origin = some url.origin
    · have hroute₁ := route?_eq_some_iff.2
        ⟨⟨url.origin, hurl.trans hread, horigin.trans hlistens⟩, htoken₁⟩
      have hroute₂ := route?_eq_some_iff.2 ⟨⟨url.origin, hread, hlistens⟩, htoken₂⟩
      rw [h.token₁] at hroute₁
      rw [h.token₂] at hroute₂
      obtain ⟨hendpoint, htoken₁, htoken₂, hlibrary, hides, horigin, hreplies, sent, hsent₁, hsent₂⟩ := h
      rw [send_of_route hroute₁, send_of_route hroute₂, hreplies, hreason]
      refine ⟨rfl, hendpoint, htoken₁, htoken₂, hlibrary, hides, horigin, rfl,
        sent ++ [requestOf url.target none entries], ?_, ?_⟩
      · simp only [hsent₁, List.map_append]
        rfl
      · simp only [hsent₂, List.map_append]
        rfl
    · rw [send_of_no_connection (hurl.trans hread) htoken₁ (horigin ▸ hlistens),
        send_of_no_connection hread htoken₂ hlistens, hreason]
      exact ⟨rfl, h⟩

/-- **Clients that differ in their tokens only cannot be told apart by their answers.** -/
theorem bisimulation_sameButToken (h₁ : Carriable (some t₁))
    (h₂ : Carriable (some t₂)) : Client.Bisimulation (SameButToken t₁ t₂) where
  send h entries := h.send h₁ h₂ entries
  close h := ⟨rfl, h⟩

end HttpClient

/-! ## Runs -/

/-- Two runs of the same actions come to the same outcomes and diagnostics, step by step, and make the
same requests, each with its own token. -/
structure Session.ShowsTokenOnly {σ : Type} [Sink σ] (requests : σ → List HttpRequest)
    (t₁ t₂ : String) (actions : List Action) (a b : Session σ) : Prop where
  outcomes : (a.run actions).map (·.value.outcome) = (b.run actions).map (·.value.outcome)
  diagnostics : (a.run actions).map (·.diagnostics) = (b.run actions).map (·.diagnostics)
  requests : ∃ sent : List HttpRequest, requests (a.after actions).sink = sent.map (.bearing t₁)
    ∧ requests (b.after actions).sink = sent.map (.bearing t₂)

variable {t₁ t₂ : String}

/-- A session shows its token where its sink does. -/
theorem Session.Alike.showsTokenOnly {σ : Type} [Sink σ] {R : σ → σ → Prop} {a b : Session σ}
    (h : Alike R a b) (hR : Sink.Bisimulation R) {requests : σ → List HttpRequest}
    (hrequests : ∀ {x y}, R x y → ∃ sent : List HttpRequest, requests x = sent.map (.bearing t₁)
      ∧ requests y = sent.map (.bearing t₂)) (actions : List Action) :
    ShowsTokenOnly requests t₁ t₂ actions a b := by
  obtain ⟨houtcomes, hdiagnostics, hlast⟩ := h.run hR actions
  exact ⟨houtcomes, hdiagnostics, hrequests hlast.sink⟩

/-- The requests of configured sinks are those of their clients. -/
theorem ConfiguredSink.Alike.requests {a b : ConfiguredSink}
    (h : Alike (HttpClient.SameButToken t₁ t₂) a b) :
    ∃ sent : List HttpRequest, a.requests = sent.map (.bearing t₁)
      ∧ b.requests = sent.map (.bearing t₂) := by
  cases h with
  | cloud h => exact h.client.backend.received
  | discard | memory => exact ⟨[], rfl, rfl⟩

/-! ## Setting up -/

/-- Two attempts fail for the same reason, or both come to something and this is related. -/
inductive SameResult {ε α β : Type} (R : α → β → Prop) : Except ε α → Except ε β → Prop
  | failed (error : ε) : SameResult R (.error error) (.error error)
  | done {a : α} {b : β} (h : R a b) : SameResult R (.ok a) (.ok b)

theorem SameResult.mono {ε α β : Type} {R S : α → β → Prop} {a : Except ε α} {b : Except ε β}
    (h : SameResult R a b) (hRS : ∀ a b, R a b → S a b) : SameResult S a b := by
  cases h with
  | failed error => exact .failed error
  | done h => exact .done (hRS _ _ h)

namespace Environment

/-- Two environments set the same variables to the same bytes, but for one variable. -/
def AgreeBut (name : String) (a b : Environment) : Prop :=
  ∀ other, other ≠ name → a.bindings.lookup other = b.bindings.lookup other

variable {name other : String} {a b : Environment}

theorem AgreeBut.get?_eq (h : AgreeBut name a b) (hne : other ≠ name)
    (hname : '=' ∉ other.toList) : a.get? other = b.get? other := by
  rw [get?, get?, bytes?_of_not_mem hname, bytes?_of_not_mem hname, h other hne]

theorem AgreeBut.getD_eq (h : AgreeBut name a b) (hne : other ≠ name)
    (hname : '=' ∉ other.toList) (default : String) :
    a.getD other default = b.getD other default := by
  rw [getD, getD, h.get?_eq hne hname]

theorem AgreeBut.nonempty?_eq (h : AgreeBut name a b) (hne : other ≠ name)
    (hname : '=' ∉ other.toList) : a.nonempty? other = b.nonempty? other := by
  rw [nonempty?, nonempty?, h.get?_eq hne hname]

end Environment

section

variable {env₁ env₂ : Environment} (henv : env₁.AgreeBut "RPC_LOG_SINK_ACCESS_TOKEN" env₂)
include henv

theorem resolveProject_eq (given : Option String) :
    resolveProject env₁ given = resolveProject env₂ given := by
  rw [resolveProject, resolveProject, henv.nonempty?_eq (by decide) (by decide),
    henv.nonempty?_eq (by decide) (by decide)]

variable {backend : Backend} (hides : backend.library.HidesTokens) (hnew : backend.received = [])
include hides hnew

/-- With tokens that are given, the cloud sink is set up for both of them or for neither. -/
theorem CloudSink.connect_sameButToken (t₁ t₂ : String) (project : Option String)
    (endpoint : String) (timeoutMs : Nat) :
    SameResult (Alike (HttpClient.SameButToken t₁ t₂))
      (connect env₁ ⟨project, endpoint, some t₁, timeoutMs⟩ backend)
      (connect env₂ ⟨project, endpoint, some t₂, timeoutMs⟩ backend) := by
  rw [connect, connect]
  dsimp only
  rw [resolveProject_eq henv]
  cases resolveProject env₂ project with
  | error error => exact .failed error
  | ok project => exact .done ⟨rfl, rfl, rfl, rfl, rfl, rfl, hides, rfl, rfl, [], hnew, hnew⟩

omit hides hnew in
theorem CloudSettings.ofEnvironment_sameButToken
    (ht₁ : env₁.nonempty? Environment.tokenVariable = some t₁)
    (ht₂ : env₂.nonempty? Environment.tokenVariable = some t₂) (project : Option String) :
    ∃ endpoint timeoutMs, ofEnvironment env₁ project = ⟨project, endpoint, some t₁, timeoutMs⟩
      ∧ ofEnvironment env₂ project = ⟨project, endpoint, some t₂, timeoutMs⟩ := by
  have hendpoint : env₁.getD Environment.endpointVariable publicEndpoint
      = env₂.getD Environment.endpointVariable publicEndpoint :=
    henv.getD_eq (by decide) (by decide) _
  refine ⟨env₂.getD Environment.endpointVariable publicEndpoint, defaultTimeoutMs, ?_, ?_⟩
  · rw [ofEnvironment, ht₁, hendpoint]
  · rw [ofEnvironment, ht₂]

/-- With tokens from the environment, setting up comes to the same for both of them. -/
theorem Settings.start_sameButToken
    (ht₁ : env₁.nonempty? Environment.tokenVariable = some t₁)
    (ht₂ : env₂.nonempty? Environment.tokenVariable = some t₂)
    (settings : Settings) (clock : Int) :
    SameResult (fun r₁ r₂ => r₁.diagnostics = r₂.diagnostics
        ∧ Session.Alike (ConfiguredSink.Alike (HttpClient.SameButToken t₁ t₂)) r₁.value r₂.value)
      (settings.start env₁ backend clock) (settings.start env₂ backend clock) := by
  rw [start, start]
  cases Dsn.parse? settings.dsn with
  | none => exact .failed _
  | some dsn =>
    cases hkind : dsn.kind with
    | discard =>
      simp only [ConfiguredSink.ofDsn, hkind]
      exact .done ⟨rfl, rfl, .discard _⟩
    | memory =>
      simp only [ConfiguredSink.ofDsn, hkind]
      exact .done ⟨rfl, rfl, .memory _⟩
    | cloud =>
      obtain ⟨endpoint, timeoutMs, hsettings₁, hsettings₂⟩ :=
        CloudSettings.ofEnvironment_sameButToken henv ht₁ ht₂ dsn.project?
      have hconnect :=
        CloudSink.connect_sameButToken henv hides hnew t₁ t₂ dsn.project? endpoint timeoutMs
      simp only [ConfiguredSink.ofDsn, hkind, hsettings₁, hsettings₂]
      generalize CloudSink.connect env₁ _ _ = a at hconnect ⊢
      generalize CloudSink.connect env₂ _ _ = b at hconnect ⊢
      cases hconnect with
      | failed error => exact .failed _
      | done h => exact .done ⟨rfl, rfl, .cloud h⟩

end

/-! ## From setting up to requests -/

/-- **The token shows in the authorization only.** With two tokens, and environments that agree but for
the variable of the token, a cloud sink is set up for both tokens or for neither, whatever its endpoint.
A run on it comes to the same outcomes and diagnostics, and makes the same requests, each with the token
of its sink, as long as the library does not name the token. The same holds where the tokens come from
the environments, whatever the settings, and the settings do not depend on the token. -/
theorem Session.token_shows_in_authorization_only {t₁ t₂ : String} (h₁ : HttpClient.IsToken t₁)
    (h₂ : HttpClient.IsToken t₂) {env₁ env₂ : Environment}
    (henv : env₁.AgreeBut "RPC_LOG_SINK_ACCESS_TOKEN" env₂) {backend : Backend}
    (hides : backend.library.HidesTokens) (hnew : backend.received = []) :
    (∀ project endpoint timeoutMs,
        SameResult (fun a b => ∀ logger actions,
            ShowsTokenOnly (·.client.backend.received) t₁ t₂ actions ⟨logger, a⟩ ⟨logger, b⟩)
          (CloudSink.connect env₁ ⟨project, endpoint, some t₁, timeoutMs⟩ backend)
          (CloudSink.connect env₂ ⟨project, endpoint, some t₂, timeoutMs⟩ backend))
      ∧ Settings.ofEnvironment env₁ = Settings.ofEnvironment env₂
      ∧ (env₁.Sets "RPC_LOG_SINK_ACCESS_TOKEN" t₁ → env₂.Sets "RPC_LOG_SINK_ACCESS_TOKEN" t₂ →
        ∀ (settings : Settings) (clock : Int),
          SameResult (fun r₁ r₂ => r₁.diagnostics = r₂.diagnostics
              ∧ ∀ actions, ShowsTokenOnly ConfiguredSink.requests t₁ t₂ actions r₁.value r₂.value)
            (settings.start env₁ backend clock) (settings.start env₂ backend clock)) := by
  have hclient := HttpClient.bisimulation_sameButToken h₁.carriable h₂.carriable
  refine ⟨?_, ?_, ?_⟩
  · intro project endpoint timeoutMs
    refine (CloudSink.connect_sameButToken henv hides hnew t₁ t₂ project endpoint timeoutMs).mono
      fun a b h logger actions => ?_
    have hsession : Alike (CloudSink.Alike (HttpClient.SameButToken t₁ t₂))
      ⟨logger, a⟩ ⟨logger, b⟩ := ⟨rfl, h⟩
    exact hsession.showsTokenOnly (CloudSink.bisimulation hclient)
      (fun h => h.client.backend.received) actions
  · rw [Settings.ofEnvironment, Settings.ofEnvironment, henv.getD_eq (by decide) (by decide)]
  · intro hset₁ hset₂ settings clock
    have ht₁ := (Environment.nonempty?_eq_some_iff (by decide)).2 ⟨hset₁, h₁.nonempty⟩
    have ht₂ := (Environment.nonempty?_eq_some_iff (by decide)).2 ⟨hset₂, h₂.nonempty⟩
    refine (settings.start_sameButToken henv hides hnew ht₁ ht₂ clock).mono ?_
    rintro r₁ r₂ ⟨hdiagnostics, hsession⟩
    exact ⟨hdiagnostics, hsession.showsTokenOnly (ConfiguredSink.bisimulation hclient)
      ConfiguredSink.Alike.requests⟩

/-- Behind the public endpoint, and a backend that rejects the first request with the text of one of the
tokens and closes the connection of the second, nothing but these requests tells the tokens apart. What
is said of the closed connection names the URL. -/
theorem Session.token_shows_in_authorization_only_past_echo :
    let project := ("GOOGLE_CLOUD_PROJECT", Text.Utf8.encode "audit")
    let env₁ : Environment := ⟨[("RPC_LOG_SINK_ACCESS_TOKEN", Text.Utf8.encode "secret"), project]⟩
    let env₂ : Environment := ⟨[("RPC_LOG_SINK_ACCESS_TOKEN", Text.Utf8.encode "other"), project]⟩
    let backend := Backend.listening .naming "https://logging.googleapis.com"
      [.answer 403 (.whole (Text.Utf8.encode "secret")), .dropped]
    let call : Call := ⟨⟨1, "service", "method", "1", .client⟩, .responseHeader [] none⟩
    HttpLibrary.naming.HidesTokens
      ∧ ∃ r₁ r₂, Settings.default.start env₁ backend 0 = .ok r₁
        ∧ Settings.default.start env₂ backend 0 = .ok r₂
        ∧ r₁.diagnostics = r₂.diagnostics
        ∧ (∀ actions, ShowsTokenOnly ConfiguredSink.requests "secret" "other" actions
            r₁.value r₂.value)
        ∧ (r₁.value.after [.log call, .log call]).sink.requests.map (·.authorization)
          = [some "Bearer secret", some "Bearer secret"]
        ∧ .cloudWriteFailed (.transport ("error sending request for url "
            ++ "(https://logging.googleapis.com/v2/entries:write): "
            ++ "connection closed before message completed")) "1"
          ∈ (r₁.value.run [.log call, .log call]).flatMap (·.diagnostics) := by
  intro project env₁ env₂ backend call
  have hides : backend.library.HidesTokens := fun url token other failure => rfl
  have hnew : backend.received = [] := rfl
  have htoken₁ : HttpClient.IsToken "secret" :=
    ⟨by decide, HttpClient.carriable_some_iff.2 (by decide)⟩
  have htoken₂ : HttpClient.IsToken "other" :=
    ⟨by decide, HttpClient.carriable_some_iff.2 (by decide)⟩
  have henv : env₁.AgreeBut "RPC_LOG_SINK_ACCESS_TOKEN" env₂ := fun name hne => by
    simp only [env₁, env₂, List.lookup_cons, beq_eq_false_iff_ne.2 hne]
  obtain ⟨-, -, hstart⟩ :=
    Session.token_shows_in_authorization_only htoken₁ htoken₂ henv hides hnew
  have hsegment : Dsn.HasSegment "cloudlogging://" "" :=
    ⟨"cloudlogging://", "", by decide, by decide, by decide, by simp⟩
  have hproject : env₁.project? "" = some "audit" := by decide
  have hready : Settings.default.start env₁ backend 0
      = .ok (.noting (.sinkReady ⟨.cloud, "cloudlogging://"⟩)
        ⟨⟨0, .unlimited⟩, .cloud (Settings.cloudSink env₁ backend "audit")⟩) := by
    rw [Settings.start_of_hasSegment hsegment, hproject]
    rfl
  have hsame := hstart (by decide) (by decide) .default 0
  rw [hready] at hsame
  generalize Settings.default.start env₂ backend 0 = other at hsame ⊢
  cases hsame with
  | done h => exact ⟨hides, _, _, hready, rfl, h.1, h.2, by decide, by decide⟩

end CallLog
