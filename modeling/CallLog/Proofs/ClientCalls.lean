import CallLog.Proofs.SinkOps
import CallLog.Sink.Cloud

/-!
# The calls that the client of a cloud sink receives

`clientCalls`: what a client should hear of a history of sink operations. Every record written before
the first close is submitted alone and in order, unless its service is excluded; then comes one close
if there was any, and nothing after it. An operation makes its own call of the client and does nothing
else to an open sink, and nothing at all to a closed one (`value_apply_of_open`,
`value_apply_of_closed`), so that a history leads any client where its calls lead it
(`applyAll_of_open`). `Follows` is the same for a client that keeps its calls: whatever its script, they
are `clientCalls` (`client_calls_of_run`).
-/

namespace CallLog

/-- The entries that a call hands over. -/
def ClientCall.entries : ClientCall → List Entry
  | .send entries => entries
  | .close => []

namespace Client

variable {χ : Type} [Client χ]

/-- The client after a call. -/
def receive (client : χ) : ClientCall → χ
  | .send entries => (send client entries).2
  | .close => (close client).2

/-- The client after several calls. -/
def receiveAll (client : χ) (calls : List ClientCall) : χ := calls.foldl receive client

theorem receiveAll_append (client : χ) (xs ys : List ClientCall) :
    receiveAll client (xs ++ ys) = receiveAll (receiveAll client xs) ys := List.foldl_append

end Client

theorem ScriptedClient.calls_receiveAll (client : ScriptedClient) (calls : List ClientCall) :
    (Client.receiveAll client calls).calls = client.calls ++ calls := by
  induction calls generalizing client with
  | nil => simp [Client.receiveAll]
  | cons call calls ih =>
    have hcall : (Client.receive client call).calls = client.calls ++ [call] := by
      cases call <;> rfl
    rw [Client.receiveAll, List.foldl_cons, ← Client.receiveAll, ih, hcall, List.append_assoc]
    rfl

namespace CloudSink

/-- The call that an operation makes of a client while the sink is open, a close aside. -/
def submission? (logName : String) : SinkOp → Option ClientCall
  | .write record =>
    if record.service = excludedService then none
    else some (.send [⟨logName, "global", .ofLevel record.level, record.payload⟩])
  | .close | .drain => none

/-- The calls that a history of operations makes of a client. -/
def clientCalls (logName : String) (ops : List SinkOp) : List ClientCall :=
  (ops.takeWhile (· ≠ .close)).filterMap (submission? logName)
    ++ if .close ∈ ops then [.close] else []

/-! ## One operation more -/

/-- The call that an operation makes of the client of an open sink. -/
def call? (logName : String) : SinkOp → Option ClientCall
  | .write record => submission? logName (.write record)
  | .close => some .close
  | .drain => none

/-- What a history goes on with makes its call only as long as there was no close. -/
theorem clientCalls_append (logName : String) (ops : List SinkOp) (op : SinkOp) :
    clientCalls logName (ops ++ [op])
      = clientCalls logName ops ++ if .close ∈ ops then [] else (call? logName op).toList := by
  by_cases hmem : .close ∈ ops
  · simp only [clientCalls, SinkOp.takeWhile_append_of_mem hmem, List.mem_append, hmem, true_or,
      if_true, List.append_nil]
  · simp only [clientCalls, SinkOp.takeWhile_append_of_not_mem hmem,
      SinkOp.takeWhile_of_not_mem hmem]
    cases op with
    | close => simp [hmem, call?]
    | drain => simp [hmem, call?, submission?]
    | write record =>
      cases hs : submission? logName (.write record) <;> simp [hmem, call?, hs]

variable {χ : Type} [Client χ] {sink : CloudSink χ}

/-- A closed sink stays as it is. -/
theorem value_apply_of_closed (hc : sink.closed = true) (op : SinkOp) :
    (Sink.apply sink op).value = sink := by
  cases op with
  | write record =>
    change (sink.write record).value = sink
    by_cases hs : record.service = excludedService
    · rw [write_of_excluded hs]
      rfl
    · rw [write_of_closed hs hc]
      rfl
  | close =>
    change sink.close.value = sink
    rw [close_of_closed hc]
    rfl
  | drain => rfl

/-- All that an operation does to an open sink is to call its client, and to close it if it is a
close. -/
theorem value_apply_of_open (hc : sink.closed = false) (op : SinkOp) :
    (Sink.apply sink op).value
      = { sink with
          client := Client.receiveAll sink.client (call? sink.logName op).toList
          closed := decide (op = .close) } := by
  cases op with
  | write record =>
    change (sink.write record).value = _
    by_cases hs : record.service = excludedService
    · rw [write_of_excluded hs]
      simp [Traced.silent, call?, submission?, hs, Client.receiveAll, ← hc]
    · rw [value_write_of_open hs hc]
      simp [call?, submission?, hs, Client.receiveAll, Client.receive, Entry.ofRecord,
        Entry.globalResource, hc]
  | close =>
    change sink.close.value = _
    rw [value_close_of_open hc]
    simp [call?, Client.receiveAll, Client.receive]
  | drain =>
    change sink = _
    simp [call?, Client.receiveAll, ← hc]

/-- **Where a history leads an open sink**: its client has received the calls of the history, and it
is closed if the history holds a close. -/
theorem applyAll_of_open (hc : sink.closed = false) (ops : List SinkOp) :
    Sink.applyAll sink ops
      = { sink with
          client := Client.receiveAll sink.client (clientCalls sink.logName ops)
          closed := decide (SinkOp.close ∈ ops) } := by
  refine Sink.applyAll_inv (P := fun ops s => s = { sink with
      client := Client.receiveAll sink.client (clientCalls sink.logName ops)
      closed := decide (SinkOp.close ∈ ops) }) ?_ ?_ ops
  · simp [clientCalls, Client.receiveAll, ← hc]
  · rintro ops s op rfl
    by_cases hmem : .close ∈ ops
    · rw [value_apply_of_closed (by simpa using hmem), clientCalls_append]
      simp [hmem]
    · rw [value_apply_of_open (by simpa using hmem), clientCalls_append, if_neg hmem,
        Client.receiveAll_append]
      simp [hmem, eq_comm]

/-! ## Entries -/

/-- The records that a history submits: those written in time, without the excluded ones. -/
def submittedRecords (ops : List SinkOp) : List Record :=
  (SinkOp.timely ops).filter (·.service ≠ excludedService)

/-- Whatever is made of the calls of a history, but not of closes, is made of one entry for each
submitted record. -/
theorem flatMap_clientCalls {β : Type} (f : ClientCall → List β) (hf : f .close = [])
    (logName : String) (ops : List SinkOp) :
    (clientCalls logName ops).flatMap f
      = (submittedRecords ops).flatMap fun record => f (.send [.ofRecord logName record]) := by
  have hsubmitted : ∀ ops : List SinkOp,
      (ops.filterMap (submission? logName)).flatMap f
        = ((ops.filterMap SinkOp.record?).filter (·.service ≠ excludedService)).flatMap
            fun record => f (.send [.ofRecord logName record]) := by
    intro ops
    induction ops with
    | nil => rfl
    | cons op ops ih =>
      cases op with
      | write record =>
        by_cases hs : record.service = excludedService
        · simpa [submission?, SinkOp.record?, hs] using ih
        · have hentry : (⟨logName, "global", .ofLevel record.level, record.payload⟩ : Entry)
              = .ofRecord logName record := rfl
          simpa [submission?, SinkOp.record?, hs, hentry] using ih
      | close | drain => exact ih
  have hclose : (if SinkOp.close ∈ ops then [ClientCall.close] else []).flatMap f = [] := by
    split
    · simpa using hf
    · rfl
  rw [clientCalls, List.flatMap_append, hclose, List.append_nil, hsubmitted, submittedRecords,
    SinkOp.timely]

/-- The entries that a history hands over are those of the records that it submits. -/
theorem entries_clientCalls (logName : String) (ops : List SinkOp) :
    (clientCalls logName ops).flatMap ClientCall.entries
      = (submittedRecords ops).map (Entry.ofRecord logName) := by
  rw [flatMap_clientCalls _ rfl, List.map_eq_flatMap]
  rfl

/-! ## The invariant -/

/-- A sink of the log `name` is where a history of operations leads. -/
structure Follows (name : String) (ops : List SinkOp) (sink : CloudSink ScriptedClient) : Prop where
  logName : sink.logName = name
  closed : sink.closed = true ↔ .close ∈ ops
  calls : sink.client.calls = clientCalls name ops

namespace Follows

variable {name : String} {ops : List SinkOp} {sink : CloudSink ScriptedClient}

theorem start (project : String) (answers : List CloudAnswer) (closing : CloudAnswer) :
    Follows (logNameOf project) [] (ofClient project (.ofScript answers closing)) :=
  ⟨rfl, by simp [ofClient], rfl⟩

theorem closed_eq_false (h : Follows name ops sink) (hmem : .close ∉ ops) :
    sink.closed = false := by
  rw [← Bool.not_eq_true, h.closed]
  exact hmem

theorem apply (h : Follows name ops sink) (op : SinkOp) :
    Follows name (ops ++ [op]) (Sink.apply sink op).value := by
  by_cases hmem : .close ∈ ops
  · rw [value_apply_of_closed (h.closed.2 hmem)]
    refine ⟨h.logName, by simp [h.closed, hmem], ?_⟩
    rw [h.calls, clientCalls_append, if_pos hmem, List.append_nil]
  · rw [value_apply_of_open (h.closed_eq_false hmem)]
    refine ⟨h.logName, by simp [hmem, eq_comm], ?_⟩
    rw [ScriptedClient.calls_receiveAll, h.calls, h.logName, clientCalls_append, if_neg hmem]

theorem write (h : Follows name ops sink) (record : Record) :
    Follows name (ops ++ [.write record]) (sink.write record).value := h.apply (.write record)

theorem close (h : Follows name ops sink) :
    Follows name (ops ++ [.close]) sink.close.value := h.apply .close

end Follows

/-! ## Runs -/

theorem follows_applyAll (project : String) (answers : List CloudAnswer) (closing : CloudAnswer)
    (ops : List SinkOp) :
    Follows (logNameOf project) ops
      (Sink.applyAll (ofClient project (ScriptedClient.ofScript answers closing)) ops) :=
  Sink.applyAll_inv (Follows.start project answers closing) (fun _ _ op h => h.apply op) ops

/-- The client of a sink receives the calls of its history and no others, for any run of a session
and any answers of the client. -/
theorem client_calls_of_run (project : String) (answers : List CloudAnswer) (closing : CloudAnswer)
    (logger : Logger) (actions : List Action) :
    let start : Session (CloudSink ScriptedClient) :=
      ⟨logger, .ofClient project (.ofScript answers closing)⟩
    (start.after actions).sink.client.calls
      = clientCalls ("projects/" ++ project ++ "/logs/grpc") (logger.ops actions) := by
  intro start
  rw [Session.after_eq]
  have h := Sink.applyAll_inv (Follows.start project answers closing) (fun _ _ op h => h.apply op)
    (logger.ops actions)
  simpa [logNameOf, stream, String.append_assoc] using h.calls

end CloudSink
end CallLog
