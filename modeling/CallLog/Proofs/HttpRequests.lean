import CallLog.Proofs.ClientCalls
import CallLog.Proofs.Endpoints
import CallLog.Text.Digits

/-!
# What an HTTP client asks of its backend

A client has a route if there is a URL at whose origin the backend listens and a header can carry its
token (`HttpClient.route?`, `HttpClient.Carriable`). On a route every `send` posts one request
(`send_of_route`), and without one a client stays as it is (`send_of_no_route`), so that calls leave at
the backend the requests that they make on the route (`received_receiveAll`). A base leads to a route
wherever the backend is at its origin (`exists_route?_of_base`). An endpoint `http://host:port`, with
any number of slashes after it, leads to `/v2/entries:write` (`HttpClient.Reaches`, `send_of_reaches`).
The body is an object with the entries' own texts (`bodyOf_eq`).
-/

namespace CallLog

/-! ## Hosts and ports -/

namespace HttpUrl

/-- Host and port. -/
def authorityOf (host : String) (port : UInt16) : String :=
  host ++ ":" ++ Text.number port.toNat

/-- The base URL of a host and port, with some slashes after it. -/
def endpointOf (host : String) (port : UInt16) (slashes : Nat) : String :=
  "http://" ++ authorityOf host port ++ String.ofList (List.replicate slashes '/')

theorem staysInAuthority_authorityOf {host : String} (h : StaysInAuthority host) (port : UInt16) :
    StaysInAuthority (authorityOf host port) := by
  intro c hc
  simp only [authorityOf, Text.number, String.toList_append, String.toList_ofList,
    List.mem_append] at hc
  obtain (hc | hc) | hc := hc
  · exact h c hc
  · obtain rfl : c = ':' := by simpa using hc
    decide
  · have hdigit := Text.isDigit_of_mem_decimal hc
    have hends : ['/', '\\', '?', '#'].all (!·.isDigit) := rfl
    intro hmem
    have hother := List.all_eq_true.1 hends c hmem
    rw [hdigit] at hother
    cases hother

end HttpUrl

open HttpUrl

/-- A host and port are those of an origin: for the library, `http://host:port` is a base of it, and
nothing in the host ends an authority. -/
structure HttpLibrary.Hosts (library : HttpLibrary) (host : String) (port : UInt16)
    (origin : String) : Prop where
  plain : StaysInAuthority host
  base : library.base? ("http://" ++ authorityOf host port) = some origin

namespace HttpClient

theorem urlOf_endpoint (host : String) (port : UInt16) (slashes : Nat) :
    urlOf (endpointOf host port slashes)
      = "http://" ++ authorityOf host port ++ "/v2/entries:write" := by
  refine urlOf_base ?_ slashes
  -- the last character is the last digit of the port
  have hlist : ("http://" ++ authorityOf host port).toList
      = ("http://" ++ host ++ ":").toList ++ Text.decimal port.toNat := by
    simp [authorityOf, Text.number]
  have hne := Text.decimal_ne_nil port.toNat
  rw [hlist, List.getLast?_append, List.getLast?_eq_some_getLast hne, Option.some_or]
  intro h
  have hdigit := Text.isDigit_of_mem_decimal (List.getLast_mem hne)
  rw [Option.some.inj h] at hdigit
  exact absurd hdigit (by decide)

theorem url?_urlOf_endpoint {library : HttpLibrary} (hlibrary : library.ReadsPaths)
    {host origin : String} {port : UInt16} (h : library.Hosts host port origin) (slashes : Nat) :
    library.url? (urlOf (endpointOf host port slashes)) = some ⟨origin, "/v2/entries:write"⟩ := by
  rw [urlOf_endpoint]
  exact hlibrary.target (staysInAuthority_authorityOf h.plain port) h.base

/-! ## Tokens -/

/-- A token without control characters other than tabs, or none. -/
def Carriable (token : Option String) : Prop :=
  ∀ text ∈ token, ∀ c ∈ text.toList, c.toNat < 0x20 ∨ c.toNat = 0x7F → c = '\t'

theorem isHeaderChar_iff {c : Char} :
    isHeaderChar c = true ↔ (c.toNat < 0x20 ∨ c.toNat = 0x7F → c = '\t') := by
  simp only [isHeaderChar, Bool.or_eq_true, beq_iff_eq, Bool.and_eq_true, decide_eq_true_eq,
    bne_iff_ne]
  constructor
  · rintro (rfl | ⟨hlow, hdelete⟩) hcontrol
    · rfl
    · omega
  · intro h
    by_cases hcontrol : c.toNat < 0x20 ∨ c.toNat = 0x7F
    · exact .inl (h hcontrol)
    · exact .inr (by omega)

theorem carriable_some_iff {text : String} :
    Carriable (some text) ↔ text.toList.all isHeaderChar = true := by
  rw [List.all_eq_true]
  constructor
  · exact fun h c hc => isHeaderChar_iff.2 (h text rfl c hc)
  · rintro h _ ⟨⟩ c hc
    exact isHeaderChar_iff.1 (h c hc)

theorem authorization?_of_carriable {token : Option String} (h : Carriable token) :
    authorization? token = some (token.map ("Bearer " ++ ·)) := by
  cases token with
  | none => rfl
  | some text =>
    rw [authorization?, bearer?, if_pos (carriable_some_iff.1 h)]
    rfl

theorem authorization?_of_not_carriable {token : Option String} (h : ¬Carriable token) :
    authorization? token = none := by
  cases token with
  | none => exact absurd nofun h
  | some text =>
    rw [authorization?, bearer?, if_neg (mt carriable_some_iff.2 h)]
    rfl

/-- A token without any control characters is one that a header can carry. -/
theorem carriable_of_no_control {token : Option String}
    (h : ∀ text ∈ token, ∀ c ∈ text.toList, 0x20 ≤ c.toNat ∧ c.toNat ≠ 0x7F) :
    Carriable token := fun text htext c hc hcontrol => by
  have hplain := h text htext c hc
  omega

/-- Whether a text is without control characters can be evaluated. -/
theorem no_control_of_all {text : String}
    (h : text.toList.all (fun c => 0x20 ≤ c.toNat && c.toNat != 0x7F) = true) :
    ∀ c ∈ text.toList, 0x20 ≤ c.toNat ∧ c.toNat ≠ 0x7F := by
  intro c hc
  simpa using List.all_eq_true.1 h c hc

/-- Whatever token a header carries, it carries it as it is. -/
theorem eq_map_of_authorization? {token authorization : Option String}
    (h : authorization? token = some authorization) :
    authorization = token.map ("Bearer " ++ ·) := by
  by_cases hcarriable : Carriable token
  · exact Option.some.inj (h.symm.trans (authorization?_of_carriable hcarriable))
  · cases h.symm.trans (authorization?_of_not_carriable hcarriable)

/-! ## Requests -/

/-- Every request of a client gets to its backend, with an authorization. -/
structure Reaches (authorization : Option String) (client : HttpClient) : Prop where
  url : ∃ origin, client.url? = some ⟨origin, "/v2/entries:write"⟩
    ∧ client.backend.origin = some origin
  token : authorization? client.token = some authorization

/-- The target and the authorization of a client's requests, if they get to its backend. -/
def route? (client : HttpClient) : Option (String × Option String) :=
  match client.url?, authorization? client.token with
  | some url, some authorization =>
    if client.backend.origin = some url.origin then some (url.target, authorization) else none
  | _, _ => none

/-- The parts of a route come from the endpoint and from the token. -/
theorem route?_eq_some_iff {client : HttpClient} {target : String} {authorization : Option String} :
    client.route? = some (target, authorization)
      ↔ (∃ origin, client.url? = some ⟨origin, target⟩ ∧ client.backend.origin = some origin)
        ∧ authorization? client.token = some authorization := by
  unfold route?
  split
  next url authorization' hurl htoken =>
    rw [hurl, htoken]
    obtain ⟨origin, target'⟩ := url
    simp only [Option.ite_none_right_eq_some, Option.some.injEq, Prod.mk.injEq,
      HttpUrl.mk.injEq]
    constructor
    · rintro ⟨horigin, rfl, rfl⟩
      exact ⟨⟨origin, ⟨rfl, rfl⟩, horigin⟩, rfl⟩
    · rintro ⟨⟨_, ⟨rfl, rfl⟩, horigin⟩, rfl⟩
      exact ⟨horigin, rfl, rfl⟩
  next hnone =>
    refine iff_of_false nofun ?_
    rintro ⟨⟨origin, hurl, -⟩, htoken⟩
    exact hnone _ _ hurl htoken

/-- A base leads to a route if the backend listens at its origin and a header can carry the token. -/
theorem exists_route?_of_base {client : HttpClient} (hlibrary : client.backend.library.ReadsPaths)
    {origin : String} (hbase : client.backend.library.base? client.endpoint = some origin)
    (horigin : client.backend.origin = some origin) (htoken : Carriable client.token) :
    ∃ target, client.url? = some ⟨origin, target⟩
      ∧ client.route? = some (target, client.token.map ("Bearer " ++ ·)) := by
  obtain ⟨url, hurl, rfl⟩ := Option.map_eq_some_iff.1 (hlibrary.origin?_urlOf hbase)
  exact ⟨url.target, hurl, route?_eq_some_iff.2
    ⟨⟨url.origin, hurl, horigin⟩, authorization?_of_carriable htoken⟩⟩

theorem send_of_route {client : HttpClient} {target : String} {authorization : Option String}
    (h : client.route? = some (target, authorization)) (entries : List Entry) :
    client.send entries
      = (answerOf client.reason (client.backend.replies.headD Backend.defaultReply),
        { client with
          backend :=
            { client.backend with
              replies := client.backend.replies.tail
              received := client.backend.received
                ++ [requestOf target authorization entries] } }) := by
  obtain ⟨⟨origin, hurl, horigin⟩, htoken⟩ := route?_eq_some_iff.1 h
  simp only [send, hurl, htoken, Backend.exchange, if_pos horigin, Option.elim]

theorem send_of_no_url {client : HttpClient} (h : client.url? = none) (entries : List Entry) :
    client.send entries = (.error (.transport (client.reason .noUrl)), client) := by
  rw [send, h]

theorem send_of_no_header {client : HttpClient} {url : HttpUrl} (hurl : client.url? = some url)
    (h : authorization? client.token = none) (entries : List Entry) :
    client.send entries = (.error (.transport (client.reason .noHeader)), client) := by
  rw [send, hurl, h]

theorem send_of_no_connection {client : HttpClient} {url : HttpUrl}
    {authorization : Option String} (hurl : client.url? = some url)
    (htoken : authorization? client.token = some authorization)
    (h : client.backend.origin ≠ some url.origin) (entries : List Entry) :
    client.send entries = (.error (.transport (client.reason .noConnection)), client) := by
  simp only [send, hurl, htoken, Backend.exchange, if_neg h, Option.elim]

/-- Without a route every `send` fails on the way and leaves the client as it is. -/
theorem send_of_no_route {client : HttpClient} (h : client.route? = none) (entries : List Entry) :
    ∃ failure, client.send entries = (.error (.transport (client.reason failure)), client) := by
  cases hurl : client.url? with
  | none => exact ⟨_, send_of_no_url hurl entries⟩
  | some url =>
    cases htoken : authorization? client.token with
    | none => exact ⟨_, send_of_no_header hurl htoken entries⟩
    | some authorization =>
      refine ⟨_, send_of_no_connection hurl htoken (fun horigin => ?_) entries⟩
      have hroute := route?_eq_some_iff.2 ⟨⟨url.origin, hurl, horigin⟩, htoken⟩
      cases h.symm.trans hroute

theorem send_of_reaches {authorization : Option String} {client : HttpClient}
    (h : client.Reaches authorization) (entries : List Entry) :
    client.send entries
      = (answerOf client.reason (client.backend.replies.headD Backend.defaultReply),
        { client with
          backend :=
            { client.backend with
              replies := client.backend.replies.tail
              received := client.backend.received
                ++ [requestOf "/v2/entries:write" authorization entries] } }) :=
  send_of_route (route?_eq_some_iff.2 ⟨h.url, h.token⟩) entries

/-- The requests that a call makes on a route. -/
def requestsOn (target : String) (authorization : Option String) : ClientCall → List HttpRequest
  | .send entries => [requestOf target authorization entries]
  | .close => []

theorem receive_send (client : HttpClient) (entries : List Entry) :
    Client.receive client (.send entries) = (client.send entries).2 := rfl

/-- **What a call leaves as it is**: everything but the replies still to come and the requests
received. -/
theorem exists_receive (client : HttpClient) (call : ClientCall) :
    ∃ replies received, Client.receive client call
      = { client with
          backend := { client.backend with replies := replies, received := received } } := by
  cases call with
  | close => exact ⟨client.backend.replies, client.backend.received, rfl⟩
  | send entries =>
    rw [receive_send]
    cases h : client.route? with
    | none =>
      obtain ⟨failure, hsend⟩ := send_of_no_route h entries
      rw [hsend]
      exact ⟨client.backend.replies, client.backend.received, rfl⟩
    | some route =>
      rw [send_of_route h]
      exact ⟨_, _, rfl⟩

theorem route?_receive (client : HttpClient) (call : ClientCall) :
    (Client.receive client call).route? = client.route? := by
  obtain ⟨replies, received, hcall⟩ := exists_receive client call
  rw [hcall]
  rfl

theorem received_receive (client : HttpClient) (call : ClientCall) :
    (Client.receive client call).backend.received
      = client.backend.received
        ++ client.route?.elim [] fun route => requestsOn route.1 route.2 call := by
  cases call with
  | close => cases client.route? <;> exact (List.append_nil _).symm
  | send entries =>
    rw [receive_send]
    cases h : client.route? with
    | none =>
      obtain ⟨failure, hsend⟩ := send_of_no_route h entries
      rw [hsend, Option.elim_none, List.append_nil]
    | some route => rw [send_of_route h, Option.elim_some, requestsOn]

/-- **What calls leave at a backend**: the requests that they make on the client's route, and without
a route nothing. -/
theorem received_receiveAll (client : HttpClient) (calls : List ClientCall) :
    (Client.receiveAll client calls).backend.received
      = client.backend.received
        ++ client.route?.elim [] fun route => calls.flatMap (requestsOn route.1 route.2) := by
  induction calls generalizing client with
  | nil =>
    rw [Client.receiveAll, List.foldl_nil]
    cases client.route? <;> exact (List.append_nil _).symm
  | cons call calls ih =>
    rw [Client.receiveAll, List.foldl_cons, ← Client.receiveAll, ih, route?_receive,
      received_receive, List.append_assoc]
    cases client.route? with
    | none => rfl
    | some route => rw [Option.elim_some, Option.elim_some, Option.elim_some, List.flatMap_cons]

theorem bodyOf_eq (entries : List Entry) :
    bodyOf entries = "\x7b\"entries\":[" ++ ",".intercalate (entries.map Entry.text) ++ "]\x7d" := by
  have htexts : (entries.map Entry.toJson).map Json.chars
      = (entries.map Entry.text).map String.toList := by
    simp [Entry.text]
  have hkey : Json.stringChars "entries" = "\"entries\"".toList := by decide
  rw [← String.toList_inj, bodyOf, Json.toList_render, Json.member, Json.chars, Json.memberChars,
    Json.memberChars, Json.chars, Json.itemChars_eq_intercalate, htexts, hkey]
  simp

end HttpClient
end CallLog
