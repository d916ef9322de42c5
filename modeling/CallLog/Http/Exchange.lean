import CallLog.Http.Library
import CallLog.Text.Utf8

/-!
# HTTP exchanges

One request and what comes of it. A backend is reached through a library. It listens at an origin, or
nowhere, keeps the requests that reach it, and answers the n-th of them by the n-th reply of its
script; after the script it answers 200 and an empty object.
-/

namespace CallLog

/-- A request as the backend sees it. -/
structure HttpRequest where
  method : String
  target : String
  authorization : Option String
  contentType : String
  body : String
  deriving DecidableEq, Repr

/-- A response body, which may break off while it is read. -/
inductive HttpBody where
  | whole (bytes : Bytes)
  | broken
  deriving DecidableEq, Repr

/-- What a backend does with a request: answer it, close the connection, or stay silent until the
time limit of the request is over. -/
inductive HttpReply where
  | answer (status : UInt16) (body : HttpBody)
  | dropped
  | silent
  deriving DecidableEq, Repr

namespace HttpBody

/-- The text of a body, if it can be read: UTF-8 without a leading byte order mark, and U+FFFD for
each malformed stretch. -/
def text? : HttpBody → Option String
  | whole bytes =>
    match (Text.Utf8.decodeLossy bytes).toList with
    | '\uFEFF' :: rest => some (String.ofList rest)
    | chars => some (String.ofList chars)
  | broken => none

theorem text?_of_unmarked {bytes : Bytes}
    (h : (Text.Utf8.decodeLossy bytes).toList.head? ≠ some '\uFEFF') :
    (whole bytes).text? = some (Text.Utf8.decodeLossy bytes) := by
  rw [text?]
  split
  next rest hmark => exact absurd (by rw [hmark]; rfl) h
  next => rw [String.ofList_toList]

theorem text?_of_marked {bytes : Bytes} {text : String}
    (h : Text.Utf8.decodeLossy bytes = "\uFEFF" ++ text) : (whole bytes).text? = some text := by
  have hmark : (Text.Utf8.decodeLossy bytes).toList = '\uFEFF' :: text.toList := by
    rw [h, String.toList_append]
    rfl
  rw [text?, hmark]
  exact congrArg some String.ofList_toList

end HttpBody

/-- A stand-in for the other end of HTTP connections, with the library that leads to it. -/
structure Backend where
  library : HttpLibrary
  origin : Option String
  replies : List HttpReply
  received : List HttpRequest

namespace Backend

/-- A backend that listens at an origin. -/
def listening (library : HttpLibrary) (origin : String) (replies : List HttpReply) : Backend :=
  ⟨library, some origin, replies, []⟩

/-- A backend that no connection reaches. -/
def unreachable (replies : List HttpReply) : Backend := ⟨.plain, none, replies, []⟩

/-- What the backend does when its script is used up. -/
def defaultReply : HttpReply := .answer 200 (.whole [0x7B, 0x7D])

/-- Sends a request to an origin: the reply of the backend if it listens there, and otherwise
nothing. -/
def exchange (backend : Backend) (origin : String) (request : HttpRequest) :
    Option HttpReply × Backend :=
  if backend.origin = some origin then
    (some (backend.replies.headD defaultReply),
      { backend with
        replies := backend.replies.tail
        received := backend.received ++ [request] })
  else (none, backend)

end Backend
end CallLog
