import CallLog.Proofs.FullUrls
import CallLog.Proofs.HttpRequests
import CallLog.Proofs.SinkOps
import CallLog.Sink.Configured
import Mathlib.Data.List.Forall2

/-!
# A cloud sink over HTTP does what one over a scripted client does

What a reply means for the entries posted (`Means`) turns a script of replies into scripts of answers.
`http_simulated`: a cloud sink that is set up over HTTP goes step by step with one over a client that
answers from such a script. Each step has the same outcome and the same diagnostics, up to the
reason given for an exchange without a response, and it posts one request for each entry that the
scripted client was handed, and nothing for a close. `Simulates` is the invariant: both sinks are
open or both are closed, and the replies still to come mean the answers still to come.
-/

namespace CallLog

/-! ## Replies and answers -/

/-- What a reply means for the entries posted. The text of a rejection is its body read as UTF-8, with
U+FFFD for what is malformed and without a byte order mark in front; the reason of an exchange without
a response is left open. -/
inductive Means : HttpReply → CloudAnswer → Prop
  | success {status : UInt16} (body : HttpBody) (h : 200 ≤ status ∧ status < 300) :
    Means (.answer status body) (.ok ())
  | rejection {status : UInt16} {bytes : Bytes} (h : ¬(200 ≤ status ∧ status < 300))
    (hunmarked : (Text.Utf8.decodeLossy bytes).toList.head? ≠ some '\uFEFF') :
    Means (.answer status (.whole bytes))
      (.error (.rejected status (Text.Utf8.decodeLossy bytes)))
  | markedRejection {status : UInt16} {bytes : Bytes} {text : String}
    (h : ¬(200 ≤ status ∧ status < 300))
    (hmark : Text.Utf8.decodeLossy bytes = "\uFEFF" ++ text) :
    Means (.answer status (.whole bytes)) (.error (.rejected status text))
  | brokenRejection {status : UInt16} (h : ¬(200 ≤ status ∧ status < 300)) :
    Means (.answer status .broken) (.error (.rejected status "<no body>"))
  | dropped (reason : String) : Means .dropped (.error (.transport reason))
  | silent (reason : String) : Means .silent (.error (.transport reason))

/-- A failure without the reason that the transport gives. -/
def CloudError.unreasoned : CloudError → CloudError
  | transport _ => transport ""
  | error => error

/-- A diagnostic without the reason that the transport gives. -/
def Diagnostic.unreasoned : Diagnostic → Diagnostic
  | cloudWriteFailed error rpcId => cloudWriteFailed error.unreasoned rpcId
  | cloudCloseFailed error => cloudCloseFailed error.unreasoned
  | diagnostic => diagnostic

/-- An answer without the reason that the transport gives. -/
def HttpClient.unreasoned (answer : CloudAnswer) : CloudAnswer :=
  answer.mapError CloudError.unreasoned

theorem HttpClient.isSuccess_iff (status : UInt16) :
    isSuccess status = true ↔ 200 ≤ status ∧ status < 300 := by
  simp [isSuccess]

theorem Means.unreasoned_answerOf {reply : HttpReply} {answer : CloudAnswer}
    (h : Means reply answer) (reason : HttpFailure → String) :
    HttpClient.unreasoned (HttpClient.answerOf reason reply) = HttpClient.unreasoned answer := by
  cases h with
  | success body h => rw [HttpClient.answerOf, if_pos ((HttpClient.isSuccess_iff _).2 h)]
  | rejection h hunmarked =>
    rw [HttpClient.answerOf, if_neg (mt (HttpClient.isSuccess_iff _).1 h),
      HttpBody.text?_of_unmarked hunmarked]
    rfl
  | markedRejection h hmark =>
    rw [HttpClient.answerOf, if_neg (mt (HttpClient.isSuccess_iff _).1 h),
      HttpBody.text?_of_marked hmark]
    rfl
  | brokenRejection h =>
    rw [HttpClient.answerOf, if_neg (mt (HttpClient.isSuccess_iff _).1 h)]
    rfl
  | dropped | silent => rfl

/-- The next reply means the next answer, also when the scripts are used up. -/
theorem unreasoned_headD {replies : List HttpReply} {answers : List CloudAnswer}
    (h : List.Forall₂ Means replies answers) (reason : HttpFailure → String) :
    HttpClient.unreasoned (HttpClient.answerOf reason (replies.headD Backend.defaultReply))
      = HttpClient.unreasoned (answers.headD (.ok ())) := by
  cases h with
  | nil => rfl
  | cons h _ => exact h.unreasoned_answerOf reason

/-- What is reported of an answer shows no more of it than the answer without its reason. -/
theorem map_unreasoned_failureOf {a b : CloudAnswer}
    (h : HttpClient.unreasoned a = HttpClient.unreasoned b) (rpcId : String) :
    (CloudSink.failureOf (.cloudWriteFailed · rpcId) a).map Diagnostic.unreasoned
      = (CloudSink.failureOf (.cloudWriteFailed · rpcId) b).map Diagnostic.unreasoned := by
  cases a with
  | ok =>
    cases b with
    | ok => rfl
    | error => cases h
  | error e =>
    cases b with
    | ok => cases h
    | error e' =>
      have herror : e.unreasoned = e'.unreasoned := Except.error.inj h
      simp only [CloudSink.failureOf, List.map_cons, List.map_nil, Diagnostic.unreasoned, herror]

/-! ## Requests -/

/-- Method, target and body of a request. -/
def HttpRequest.essentials (request : HttpRequest) : String × String × String :=
  (request.method, request.target, request.body)

/-- Method, target and body of the request that a call stands for; closing asks for nothing. -/
def ClientCall.post? : ClientCall → Option (String × String × String)
  | .send entries =>
    some ("POST", "/v2/entries:write",
      "\x7b\"entries\":[" ++ ",".intercalate (entries.map Entry.text) ++ "]\x7d")
  | .close => none

/-! ## The simulation -/

namespace CloudSink

/-- A sink over HTTP and one over a scripted client are at the same place. -/
structure Simulates (http : CloudSink HttpClient) (fake : CloudSink ScriptedClient) : Prop where
  logName : http.logName = fake.logName
  closed : http.closed = fake.closed
  reaches : ∃ authorization, http.client.Reaches authorization
  replies : List.Forall₂ Means http.client.backend.replies fake.client.answers
  closing : fake.client.closing = .ok ()

/-- An operation does the same to both sinks. -/
structure SameOp (http : CloudSink HttpClient) (fake : CloudSink ScriptedClient)
    (http' : Traced (CloudSink HttpClient)) (fake' : Traced (CloudSink ScriptedClient)) : Prop where
  simulates : Simulates http'.value fake'.value
  diagnostics : http'.diagnostics.map Diagnostic.unreasoned
    = fake'.diagnostics.map Diagnostic.unreasoned
  requests : ∃ requests calls,
    http'.value.client.backend.received = http.client.backend.received ++ requests
      ∧ fake'.value.client.calls = fake.client.calls ++ calls
      ∧ requests.map HttpRequest.essentials = calls.filterMap ClientCall.post?

namespace Simulates

variable {http : CloudSink HttpClient} {fake : CloudSink ScriptedClient}

/-- Neither client is called. -/
theorem quiet (h : Simulates http fake) (diagnostics : List Diagnostic) :
    SameOp http fake ⟨http, diagnostics⟩ ⟨fake, diagnostics⟩ :=
  ⟨h, rfl, [], [], (List.append_nil _).symm, (List.append_nil _).symm, rfl⟩

theorem write (h : Simulates http fake) (record : Record) :
    SameOp http fake (http.write record) (fake.write record) := by
  by_cases hs : record.service = excludedService
  · rw [write_of_excluded hs, write_of_excluded hs]
    exact h.quiet []
  cases hc : fake.closed with
  | true =>
    rw [write_of_closed hs (h.closed.trans hc), write_of_closed hs hc]
    exact h.quiet [.cloudWriteAfterClose record.rpcId]
  | false =>
    obtain ⟨hname, hclosed, ⟨authorization, hreaches⟩, hreplies, hclosing⟩ := h
    have hsend : Client.send http.client [.ofRecord http.logName record] = _ :=
      HttpClient.send_of_reaches hreaches [.ofRecord http.logName record]
    have hanswer : Client.send fake.client [.ofRecord fake.logName record]
        = (fake.client.answers.headD (.ok ()),
          (fake.client.send [.ofRecord fake.logName record]).2) := rfl
    rw [write_of_open hs (hclosed.trans hc) hsend, write_of_open hs hc hanswer]
    have hreport := map_unreasoned_failureOf (unreasoned_headD hreplies http.client.reason) record.rpcId
    have hrest : List.Forall₂ Means http.client.backend.replies.tail fake.client.answers.tail := by
      simpa only [List.drop_one] using List.forall₂_drop 1 hreplies
    refine ⟨?_, congrArg (Diagnostic.cloudWrite record.kind :: ·) hreport, ?_⟩
    · exact ⟨hname, hclosed, ⟨authorization, hreaches.url, hreaches.token⟩, hrest, hclosing⟩
    · refine ⟨[HttpClient.requestOf "/v2/entries:write" authorization
        [.ofRecord http.logName record]], [.send [.ofRecord fake.logName record]], rfl, rfl, ?_⟩
      simp only [List.map_cons, List.map_nil, List.filterMap_cons, List.filterMap_nil,
        ClientCall.post?, HttpRequest.essentials, HttpClient.requestOf, HttpClient.bodyOf_eq, hname]

theorem close (h : Simulates http fake) : SameOp http fake http.close fake.close := by
  cases hc : fake.closed with
  | true =>
    rw [close_of_closed (h.closed.trans hc), close_of_closed hc]
    exact h.quiet [.cloudCloseAfterClose]
  | false =>
    obtain ⟨hname, hclosed, hreaches, hreplies, hclosing⟩ := h
    have hanswer : Client.close fake.client = (.ok (), fake.client.close.2) := Prod.ext hclosing rfl
    have hquiet : Client.close http.client = (.ok (), http.client) := rfl
    rw [close_of_open (hclosed.trans hc) hquiet, close_of_open hc hanswer]
    exact ⟨⟨hname, rfl, hreaches, hreplies, hclosing⟩, rfl, [], [.close],
      (List.append_nil _).symm, rfl, rfl⟩

end Simulates

theorem SameOp.after {http : CloudSink HttpClient} {fake : CloudSink ScriptedClient}
    {http' : Traced (CloudSink HttpClient)} {fake' : Traced (CloudSink ScriptedClient)}
    (h : SameOp http fake http' fake') (diagnostic : Diagnostic) :
    SameOp http fake (http'.after diagnostic) (fake'.after diagnostic) :=
  ⟨h.simulates, congrArg (diagnostic.unreasoned :: ·) h.diagnostics, h.requests⟩

/-- Setting up the sink for a project puts it at the start of its scripts. -/
theorem connect_simulates {library : HttpLibrary} (hlibrary : library.ReadsPaths)
    {host origin : String} {port : UInt16} (hhost : library.Hosts host port origin)
    (slashes : Nat) {project : String} (hproject : project ≠ "") {token : Option String}
    (htoken : ∀ text ∈ token, ∀ c ∈ text.toList, 0x20 ≤ c.toNat ∧ c.toNat ≠ 0x7F)
    (timeoutMs : Nat) (env : Environment) {replies : List HttpReply} {answers : List CloudAnswer}
    (hmeans : List.Forall₂ Means replies answers) :
    ∃ sink,
      connect env ⟨some project, HttpUrl.endpointOf host port slashes, token, timeoutMs⟩
          (.listening library origin replies)
        = .ok sink
      ∧ Simulates sink (ofClient project (.ofScript answers (.ok ()))) := by
  have hresolve : resolveProject env (some project) = .ok project := by
    simp [resolveProject, Option.filter_some, hproject]
  refine ⟨_, by rw [connect, hresolve], rfl, rfl, ?_, hmeans, rfl⟩
  exact ⟨_, ⟨_, HttpClient.url?_urlOf_endpoint hlibrary hhost slashes, rfl⟩,
    HttpClient.authorization?_of_carriable (HttpClient.carriable_of_no_control htoken)⟩

end CloudSink

/-! ## Sessions -/

namespace Session

/-- Two sessions of one logger with sinks at the same place. -/
structure Simulates (http : Session (CloudSink HttpClient))
    (fake : Session (CloudSink ScriptedClient)) : Prop where
  logger : http.logger = fake.logger
  sink : CloudSink.Simulates http.sink fake.sink

/-- A step from two sessions comes to the same outcome, and does the same to both sinks. -/
structure SameStep (http : Session (CloudSink HttpClient))
    (fake : Session (CloudSink ScriptedClient)) (http' : Traced (Step (CloudSink HttpClient)))
    (fake' : Traced (Step (CloudSink ScriptedClient))) : Prop where
  outcome : http'.value.outcome = fake'.value.outcome
  logger : http'.value.session.logger = fake'.value.session.logger
  sink : CloudSink.SameOp http.sink fake.sink ⟨http'.value.session.sink, http'.diagnostics⟩
    ⟨fake'.value.session.sink, fake'.diagnostics⟩

namespace Simulates

variable {http : Session (CloudSink HttpClient)} {fake : Session (CloudSink ScriptedClient)}

theorem step (h : Simulates http fake) (action : Action) :
    SameStep http fake (http.step action) (fake.step action) := by
  obtain ⟨logger, http⟩ := http
  obtain ⟨logger', fake⟩ := fake
  obtain ⟨rfl, hsink⟩ := h
  cases action with
  | log call =>
    cases hv : call.violation? with
    | none =>
      simp only [Session.step, log_of_accepted hv]
      exact ⟨rfl, rfl, (hsink.write _).after _⟩
    | some violation =>
      simp only [Session.step, log_of_violation hv]
      exact ⟨rfl, rfl, hsink.quiet []⟩
  | write record => exact ⟨rfl, rfl, hsink.write record⟩
  | close => exact ⟨rfl, rfl, hsink.close⟩
  | setClock | clone | records | take => exact ⟨rfl, rfl, hsink.quiet []⟩

theorem after (h : Simulates http fake) (actions : List Action) :
    Simulates (http.after actions) (fake.after actions) := by
  induction actions generalizing http fake with
  | nil => exact h
  | cons action rest ih =>
    have hstep := h.step action
    exact ih ⟨hstep.logger, hstep.sink.simulates⟩

end Simulates

/-- **A cloud sink over HTTP does what one over a scripted client does**, step by step, in any run and
for any script of replies: if the client's script says what the replies mean, each action comes to
the same outcome and the same diagnostics, up to the reason of an exchange without a response, and
the backend, at the origin of the endpoint, sees one request for each entry that the client was
handed. -/
theorem http_simulated {library : HttpLibrary} (hlibrary : library.ReadsPaths)
    {host origin : String} {port : UInt16} (hhost : library.Hosts host port origin)
    (slashes : Nat) {project : String} (hproject : project ≠ "") {token : Option String}
    (htoken : ∀ text ∈ token, ∀ c ∈ text.toList, 0x20 ≤ c.toNat ∧ c.toNat ≠ 0x7F)
    (timeoutMs : Nat) (env : Environment) {replies : List HttpReply} {answers : List CloudAnswer}
    (hmeans : List.Forall₂ Means replies answers) (logger : Logger) :
    ∃ sink,
      CloudSink.connect env ⟨some project, HttpUrl.endpointOf host port slashes, token, timeoutMs⟩
          (.listening library origin replies)
        = .ok sink
      ∧ ∀ (before : List Action) (action : Action),
          let http : Session (CloudSink HttpClient) := Session.after ⟨logger, sink⟩ before
          let fake : Session (CloudSink ScriptedClient) :=
            Session.after ⟨logger, .ofClient project (.ofScript answers (.ok ()))⟩ before
          SameStep http fake (http.step action) (fake.step action) := by
  obtain ⟨sink, hconnect, hstart⟩ :=
    CloudSink.connect_simulates hlibrary hhost slashes hproject htoken timeoutMs env hmeans
  refine ⟨sink, hconnect, fun before action => ?_⟩
  have hsessions : Simulates ⟨logger, sink⟩
      ⟨logger, .ofClient project (.ofScript answers (.ok ()))⟩ := ⟨rfl, hstart⟩
  exact (hsessions.after before).step action

/-- A rejection that is read, a success whose body breaks off, a closed connection, a rejection that
breaks off and one with a byte order mark, for a token with a blank and an endpoint with two slashes
after it. -/
theorem http_simulated_through_failures :
    let logger : Logger := ⟨5, .unlimited⟩
    let replies : List HttpReply :=
      [.answer 403 (.whole [0x6E, 0xFF]), .answer 204 .broken, .dropped, .answer 500 .broken,
        .answer 404 (.whole [0xEF, 0xBB, 0xBF, 0x6E])]
    let answers : List CloudAnswer :=
      [.error (.rejected 403 "n\uFFFD"), .ok (), .error (.transport "connection reset"),
        .error (.rejected 500 "<no body>"), .error (.rejected 404 "n")]
    HttpLibrary.naming.ReadsPaths
      ∧ HttpLibrary.naming.Hosts "127.0.0.1" 8080 "http://127.0.0.1:8080" ∧ "project" ≠ ""
      ∧ (∀ text ∈ some "a token", ∀ c ∈ text.toList, 0x20 ≤ c.toNat ∧ c.toNat ≠ 0x7F)
      ∧ List.Forall₂ Means replies answers
      ∧ ∃ sink,
        CloudSink.connect ⟨[]⟩
            ⟨some "project", HttpUrl.endpointOf "127.0.0.1" 8080 2, some "a token", 10000⟩
            (.listening .naming "http://127.0.0.1:8080" replies)
          = .ok sink
        ∧ ∀ (before : List Action) (action : Action),
            let http : Session (CloudSink HttpClient) := Session.after ⟨logger, sink⟩ before
            let fake : Session (CloudSink ScriptedClient) :=
              Session.after ⟨logger, .ofClient "project" (.ofScript answers (.ok ()))⟩ before
            SameStep http fake (http.step action) (fake.step action) := by
  intro logger replies answers
  have hlibrary : HttpLibrary.naming.ReadsPaths := HttpLibrary.readsPaths_of_parse? rfl
  have hplain : HttpUrl.StaysInAuthority "127.0.0.1" := by
    have hall : "127.0.0.1".toList.all (· ∉ ['/', '\\', '?', '#']) = true := by decide
    exact fun c hc => of_decide_eq_true (List.all_eq_true.1 hall c hc)
  have hhost : HttpLibrary.naming.Hosts "127.0.0.1" 8080 "http://127.0.0.1:8080" :=
    ⟨hplain, by decide⟩
  have hproject : "project" ≠ "" := by decide
  have htoken : ∀ text ∈ some "a token", ∀ c ∈ text.toList, 0x20 ≤ c.toNat ∧ c.toNat ≠ 0x7F := by
    rintro text ⟨⟩
    exact HttpClient.no_control_of_all (by decide)
  have hmeans : List.Forall₂ Means replies answers :=
    .cons (.rejection (by decide) (by decide)) (.cons (.success _ (by decide))
      (.cons (.dropped _) (.cons (.brokenRejection (by decide))
        (.cons (.markedRejection (by decide) (by decide)) .nil))))
  exact ⟨hlibrary, hhost, hproject, htoken, hmeans,
    http_simulated hlibrary hhost 2 hproject htoken 10000 ⟨[]⟩ hmeans logger⟩

end Session
end CallLog
