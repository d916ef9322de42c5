import CallLog.Http.Url

/-!
# HTTP libraries

What carries requests over HTTP is a library of its own. Two things about it matter here: which texts
it takes for URLs, and what it says of a request that got no response, which ends up in diagnostics.
-/

namespace CallLog

/-- Why a request gets no response. -/
inductive HttpFailure where
  /-- There is no URL to send it to. -/
  | noUrl
  /-- No header can hold its token. -/
  | noHeader
  /-- There is no connection to the other end. -/
  | noConnection
  /-- The connection is closed before there is a response. -/
  | dropped
  /-- There is no response within the time limit. -/
  | silent
  deriving DecidableEq, Repr

/-- A library that carries HTTP requests. -/
structure HttpLibrary where
  /-- The `http` or `https` URL that a text stands for. A user in it is left out. -/
  url? : String → Option HttpUrl
  /-- What is said of a request without a response, by the text of its URL and its token. -/
  reason : String → Option String → HttpFailure → String

/-- A library that reads URLs written out in full and says the same of every failure, for runs in
which its words do not matter. -/
def HttpLibrary.plain : HttpLibrary where
  url? := HttpUrl.parse?
  reason _ _ _ := "<transport>"

end CallLog
