import CallLog.Cloud.Client
import CallLog.Http.Exchange

/-!
# Cloud logging over HTTP

The client that posts entries to the service's `entries:write` method, one request for each `send`.
Any status from 200 to 299 is success. Another status is a rejection with the response body, and an
exchange without a response, an endpoint that makes no URL, or a token that no header can carry is a
failure on the way. Closing needs no request.
-/

namespace CallLog

/-- Where the service is, the token to show it, and the other end of the connections. -/
structure HttpClient where
  endpoint : String
  token : Option String
  backend : Backend

namespace HttpClient

/-! ## Requests -/

/-- The URL of the method: the endpoint without trailing slashes, and the path of the method. -/
def urlOf (endpoint : String) : String :=
  String.ofList (endpoint.toList.reverse.dropWhile (· == '/')).reverse ++ "/v2/entries:write"

/-- The URL of the client's requests, as the library reads it. -/
def url? (client : HttpClient) : Option HttpUrl :=
  client.backend.library.url? (urlOf client.endpoint)

/-- The request body: an object with the entries. -/
def bodyOf (entries : List Entry) : String :=
  (Json.obj (Json.member "entries" (.arr (entries.map Entry.toJson)))).render

/-- A header value holds no control characters other than tabs. -/
def isHeaderChar (c : Char) : Bool := c == '\t' || (0x20 ≤ c.toNat && c.toNat != 0x7F)

/-- The authorization header for a token, if a header can carry the token. -/
def bearer? (token : String) : Option String :=
  if token.toList.all isHeaderChar then some ("Bearer " ++ token) else none

/-- Without a token there is no authorization header; a token that no header can carry admits no
request (`none`). -/
def authorization? : Option String → Option (Option String)
  | none => some none
  | some token => (bearer? token).map some

/-- The request for entries at a target. -/
def requestOf (target : String) (authorization : Option String) (entries : List Entry) :
    HttpRequest where
  method := "POST"
  target := target
  authorization := authorization
  contentType := "application/json"
  body := bodyOf entries

/-! ## Responses -/

/-- What the library says of a request of the client that gets no response. -/
def reason (client : HttpClient) (failure : HttpFailure) : String :=
  client.backend.library.reason (urlOf client.endpoint) client.token failure

/-- The body of a rejection whose response body broke off. -/
def noBody : String := "<no body>"

/-- Any status from 200 to 299 is success. -/
def isSuccess (status : UInt16) : Bool := 200 ≤ status && status < 300

/-- What a reply means for the entries; `reason` says why there is no response. -/
def answerOf (reason : HttpFailure → String) : HttpReply → CloudAnswer
  | .answer status body =>
    if isSuccess status then .ok () else .error (.rejected status (body.text?.getD noBody))
  | .dropped => .error (.transport (reason .dropped))
  | .silent => .error (.transport (reason .silent))

/-! ## Calls -/

/-- Posts entries and reads the response. -/
def send (client : HttpClient) (entries : List Entry) : CloudAnswer × HttpClient :=
  match client.url?, authorization? client.token with
  | none, _ => (.error (.transport (client.reason .noUrl)), client)
  | some _, none => (.error (.transport (client.reason .noHeader)), client)
  | some url, some authorization =>
    let (reply, backend) :=
      client.backend.exchange url.origin (requestOf url.target authorization entries)
    (reply.elim (.error (.transport (client.reason .noConnection))) (answerOf client.reason),
      { client with backend := backend })

/-- Connections close by themselves. -/
def close (client : HttpClient) : CloudAnswer × HttpClient := (.ok (), client)

instance : Client HttpClient where
  send := send
  close := close

end HttpClient
end CallLog
