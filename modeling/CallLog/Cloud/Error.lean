import CallLog.Text.Digits

/-!
# Cloud logging failures

Why entries could not be handed to the cloud logging service, and the text of each reason.
-/

namespace CallLog

/-- A failure of the cloud logging service or on the way to it. -/
inductive CloudError where
  | serialize (reason : String)
  | transport (reason : String)
  | rejected (status : UInt16) (body : String)
  | missingProject
  deriving DecidableEq, Repr

/-- The text of a failure. -/
def CloudError.message : CloudError → String
  | serialize reason => "failed to serialize log record: " ++ reason
  | transport reason => "http request failed: " ++ reason
  | rejected status body =>
    "cloud logging rejected entries with status " ++ Text.number status.toNat
      ++ ": " ++ body
  | missingProject => "no project id configured and none found in the environment"

end CallLog
