import CallLog.Cloud.Client
import CallLog.Sink.Basic

/-!
# Cloud sink

Sends every record as an entry of its own through a client until it is closed. Records about calls
to the logging service itself are dropped, since logging them would cause more of them. Failures of
the client are absorbed and reported.
-/

namespace CallLog

/-- A client, the name of the log it writes to, and whether the sink is closed. -/
structure CloudSink (χ : Type) where
  logName : String
  client : χ
  closed : Bool

namespace CloudSink

/-- The service whose own calls are not logged. -/
def excludedService : String := "google.logging.v2.LoggingServiceV2"

/-- The log that all entries belong to. -/
def stream : String := "grpc"

/-- The full name of that log in a project. -/
def logNameOf (project : String) : String := "projects/" ++ project ++ "/logs/" ++ stream

variable {χ : Type}

/-- An open sink for a project. -/
def ofClient (project : String) (client : χ) : CloudSink χ := ⟨logNameOf project, client, false⟩

variable [Client χ]

/-- Sends a record unless it is excluded or comes too late. -/
def write (sink : CloudSink χ) (record : Record) : Traced (CloudSink χ) :=
  if record.service = excludedService then .silent sink
  else if sink.closed then .noting (.cloudWriteAfterClose record.rpcId) sink
  else
    let (answer, client) := Client.send sink.client [.ofRecord sink.logName record]
    let sink := { sink with client := client }
    .after (.cloudWrite record.kind) <|
      match answer with
      | .ok () => .silent sink
      | .error error => .noting (.cloudWriteFailed error record.rpcId) sink

/-- Closes the client, or warns that the sink is closed already. -/
def close (sink : CloudSink χ) : Traced (CloudSink χ) :=
  if sink.closed then .noting .cloudCloseAfterClose sink
  else
    let (answer, client) := Client.close sink.client
    let sink := { sink with client := client, closed := true }
    match answer with
    | .ok () => .silent sink
    | .error error => .noting (.cloudCloseFailed error) sink

instance : Sink (CloudSink χ) where
  write := write
  close := close

/-! ## What the operations come to -/

variable {sink : CloudSink χ} {record : Record}

theorem write_of_excluded (h : record.service = excludedService) :
    sink.write record = .silent sink := if_pos h

theorem write_of_closed (hs : record.service ≠ excludedService) (hc : sink.closed = true) :
    sink.write record = .noting (.cloudWriteAfterClose record.rpcId) sink := by
  simp [write, hs, hc]

theorem value_write_of_open (hs : record.service ≠ excludedService) (hc : sink.closed = false) :
    (sink.write record).value
      = { sink with client := (Client.send sink.client [.ofRecord sink.logName record]).2 } := by
  simp only [write, hs, hc, if_false, Bool.false_eq_true, Traced.after]
  split <;> rfl

/-- What is reported of a call to the client: a failure, by the diagnostic for it. -/
def failureOf (report : CloudError → Diagnostic) : CloudAnswer → List Diagnostic
  | .ok () => []
  | .error error => [report error]

theorem write_of_open (hs : record.service ≠ excludedService) (hc : sink.closed = false)
    {answer : CloudAnswer} {client : χ}
    (h : Client.send sink.client [.ofRecord sink.logName record] = (answer, client)) :
    sink.write record
      = ⟨{ sink with client := client },
          .cloudWrite record.kind :: failureOf (.cloudWriteFailed · record.rpcId) answer⟩ := by
  simp only [write, hs, hc, h, if_false, Bool.false_eq_true]
  cases answer <;> rfl

theorem close_of_closed (hc : sink.closed = true) :
    sink.close = .noting .cloudCloseAfterClose sink := if_pos hc

theorem close_of_open (hc : sink.closed = false) {answer : CloudAnswer} {client : χ}
    (h : Client.close sink.client = (answer, client)) :
    sink.close
      = ⟨{ sink with client := client, closed := true },
          failureOf .cloudCloseFailed answer⟩ := by
  simp only [close, hc, h, if_false, Bool.false_eq_true]
  cases answer <;> rfl

theorem value_close_of_open (hc : sink.closed = false) :
    sink.close.value = { sink with client := (Client.close sink.client).2, closed := true } := by
  simp only [close, hc, if_false, Bool.false_eq_true]
  split <;> rfl

end CloudSink
end CallLog
