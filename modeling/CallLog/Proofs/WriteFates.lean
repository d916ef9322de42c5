import CallLog.Proofs.ClientCalls
import Mathlib.Data.List.Induction

/-!
# No record is lost in silence

A record written to a cloud sink meets one of four fates (`Fate`), and the history before it
decides which (`fate`): it is excluded, accepted by the client, refused by the client, or late.
`Settles` says what each fate comes to, in calls of the client and in diagnostics: all but an
accepted record and an excluded one leave exactly one error with their `rpc_id`. So over any run the
loggable writes are the accepted ones and those with such an error (`countP_loggable`), whatever the
client answers. `Serves` is the invariant behind it: besides the calls so far (`Follows`) the
client's script has been used up to the number of records submitted.
-/

namespace CallLog.CloudSink

/-! ## Histories -/

/-- The writes of records that are not excluded. -/
def loggable : SinkOp → Bool
  | .write record => record.service ≠ excludedService
  | .close | .drain => false

/-- How many records a history has submitted to the client: the loggable ones before any close. -/
def submitted (ops : List SinkOp) : Nat := (ops.takeWhile (· ≠ .close)).countP loggable

theorem submitted_append_of_mem {ops : List SinkOp} (h : .close ∈ ops) (op : SinkOp) :
    submitted (ops ++ [op]) = submitted ops := by
  rw [submitted, SinkOp.takeWhile_append_of_mem h, submitted]

theorem submitted_append_of_not_mem {ops : List SinkOp} (h : .close ∉ ops) (op : SinkOp) :
    submitted (ops ++ [op]) = submitted ops + [op].countP loggable := by
  simp only [submitted, SinkOp.takeWhile_append_of_not_mem h, SinkOp.takeWhile_of_not_mem h,
    List.countP_append]
  by_cases hop : op = .close
  · subst hop
    rfl
  · simp [hop]

theorem submitted_append_of_not_loggable (ops : List SinkOp) {op : SinkOp}
    (h : loggable op = false) : submitted (ops ++ [op]) = submitted ops := by
  by_cases hmem : .close ∈ ops
  · exact submitted_append_of_mem hmem op
  · rw [submitted_append_of_not_mem hmem, List.countP_singleton, h]
    rfl

/-! ## Fates -/

/-- What becomes of a record. -/
inductive Fate where
  | excluded
  | accepted
  | failed (error : CloudError)
  | late

/-- The fate of a record after a history: the n-th submission meets the n-th answer of the
client. -/
def fate (answers : List CloudAnswer) (before : List SinkOp) (record : Record) : Fate :=
  if record.service = excludedService then .excluded
  else if .close ∈ before then .late
  else
    match answers.getD (submitted before) (.ok ()) with
    | .ok () => .accepted
    | .error error => .failed error

theorem fate_cases (answers : List CloudAnswer) (before : List SinkOp) (record : Record) :
    (fate answers before record = .excluded ∧ loggable (.write record) = false)
      ∨ (fate answers before record = .late ∧ loggable (.write record) = true ∧ .close ∈ before)
      ∨ (fate answers before record = .accepted ∧ loggable (.write record) = true
        ∧ .close ∉ before ∧ answers.getD (submitted before) (.ok ()) = .ok ())
      ∨ ∃ error, fate answers before record = .failed error ∧ loggable (.write record) = true
        ∧ .close ∉ before ∧ answers.getD (submitted before) (.ok ()) = .error error := by
  unfold fate loggable
  by_cases hs : record.service = excludedService
  · simp [hs]
  by_cases hmem : .close ∈ before
  · simp [hs, hmem]
  cases hanswer : answers.getD (submitted before) (.ok ()) <;> simp [hs, hmem]

/-- Level and fields of the diagnostics that are more severe than TRACE. -/
def reported (diagnostics : List Diagnostic) :
    List (Diagnostic.Level × List (String × String)) :=
  (Diagnostic.atLeast .debug diagnostics).map fun diagnostic =>
    (diagnostic.level, diagnostic.fields)

/-- A write settles a record in accordance with a fate. -/
def Settles (sink : CloudSink ScriptedClient) (record : Record)
    (step : Traced (CloudSink ScriptedClient)) : Fate → Prop
  | .excluded => step.value.client.calls = sink.client.calls ∧ step.diagnostics = []
  | .accepted =>
    (sink.client.send [.ofRecord sink.logName record]).1 = .ok ()
      ∧ step.value.client.calls
        = sink.client.calls ++ [.send [.ofRecord sink.logName record]]
      ∧ reported step.diagnostics = []
  | .failed error =>
    (sink.client.send [.ofRecord sink.logName record]).1 = .error error
      ∧ step.value.client.calls
        = sink.client.calls ++ [.send [.ofRecord sink.logName record]]
      ∧ reported step.diagnostics
        = [(.error, [("error", error.message), ("rpc_id", record.rpcId)])]
  | .late =>
    step.value.client.calls = sink.client.calls
      ∧ reported step.diagnostics = [(.error, [("rpc_id", record.rpcId)])]

/-! ## The invariant -/

/-- A sink is where a history leads, and its client's script is used up to the submissions. -/
structure Serves (name : String) (answers : List CloudAnswer) (closing : CloudAnswer)
    (ops : List SinkOp) (sink : CloudSink ScriptedClient) : Prop
    extends Follows name ops sink where
  answers : sink.client.answers = answers.drop (submitted ops)
  closing : sink.client.closing = closing

namespace Serves

variable {name : String} {answers : List CloudAnswer} {closing : CloudAnswer}
  {ops : List SinkOp} {sink : CloudSink ScriptedClient}

theorem start (project : String) (answers : List CloudAnswer) (closing : CloudAnswer) :
    Serves (logNameOf project) answers closing [] (ofClient project (.ofScript answers closing)) :=
  ⟨Follows.start project answers closing, rfl, rfl⟩

theorem answer_eq (h : Serves name answers closing ops sink) (entries : List Entry) :
    (sink.client.send entries).1 = answers.getD (submitted ops) (.ok ()) := by
  rw [ScriptedClient.send, h.answers, List.headD_eq_head?_getD, List.head?_drop,
    List.getD_eq_getElem?_getD]

theorem write (h : Serves name answers closing ops sink) (record : Record) :
    Serves name answers closing (ops ++ [.write record]) (sink.write record).value := by
  have hfollows := h.toFollows.write record
  by_cases hs : record.service = excludedService
  · have hsame : submitted (ops ++ [.write record]) = submitted ops :=
      submitted_append_of_not_loggable ops (by simp [loggable, hs])
    rw [write_of_excluded hs] at hfollows ⊢
    exact ⟨hfollows, hsame ▸ h.answers, h.closing⟩
  by_cases hmem : .close ∈ ops
  · rw [write_of_closed hs (h.closed.2 hmem)] at hfollows ⊢
    exact ⟨hfollows, submitted_append_of_mem hmem _ ▸ h.answers, h.closing⟩
  rw [value_write_of_open hs (h.closed_eq_false hmem)] at hfollows ⊢
  refine ⟨hfollows, ?_, h.closing⟩
  rw [submitted_append_of_not_mem hmem]
  simp [Client.send, ScriptedClient.send, h.answers, loggable, hs]

theorem close (h : Serves name answers closing ops sink) :
    Serves name answers closing (ops ++ [.close]) sink.close.value := by
  have hfollows := h.toFollows.close
  have hsame : submitted (ops ++ [.close]) = submitted ops :=
    submitted_append_of_not_loggable ops rfl
  by_cases hmem : .close ∈ ops
  · rw [close_of_closed (h.closed.2 hmem)] at hfollows ⊢
    exact ⟨hfollows, hsame ▸ h.answers, h.closing⟩
  · rw [value_close_of_open (h.closed_eq_false hmem)] at hfollows ⊢
    exact ⟨hfollows, hsame ▸ h.answers, h.closing⟩

theorem drain (h : Serves name answers closing ops sink) :
    Serves name answers closing (ops ++ [.drain]) sink := by
  have hsame : submitted (ops ++ [.drain]) = submitted ops :=
    submitted_append_of_not_loggable ops rfl
  exact ⟨h.toFollows.apply .drain, hsame ▸ h.answers, h.closing⟩

theorem apply (h : Serves name answers closing ops sink) (op : SinkOp) :
    Serves name answers closing (ops ++ [op]) (Sink.apply sink op).value := by
  cases op with
  | write record => exact h.write record
  | close => exact h.close
  | drain => exact h.drain

/-! ## Steps -/

theorem write_eq (h : Serves name answers closing ops sink) (record : Record) :
    sink.write record
      = match fate answers ops record with
        | .excluded => .silent sink
        | .late => .noting (.cloudWriteAfterClose record.rpcId) sink
        | .accepted =>
          ⟨{ sink with client := (sink.client.send [.ofRecord sink.logName record]).2 },
            [.cloudWrite record.kind]⟩
        | .failed error =>
          ⟨{ sink with client := (sink.client.send [.ofRecord sink.logName record]).2 },
            [.cloudWrite record.kind, .cloudWriteFailed error record.rpcId]⟩ := by
  unfold fate
  by_cases hs : record.service = excludedService
  · rw [if_pos hs, write_of_excluded hs]
  rw [if_neg hs]
  by_cases hmem : .close ∈ ops
  · rw [if_pos hmem, write_of_closed hs (h.closed.2 hmem)]
  have hsend : Client.send sink.client [.ofRecord sink.logName record]
      = (answers.getD (submitted ops) (.ok ()),
        (sink.client.send [.ofRecord sink.logName record]).2) :=
    Prod.ext (h.answer_eq _) rfl
  rw [if_neg hmem, write_of_open hs (h.closed_eq_false hmem) hsend]
  cases answers.getD (submitted ops) (.ok ()) <;> rfl

theorem close_eq (h : Serves name answers closing ops sink) :
    sink.close
      = if .close ∈ ops then .noting .cloudCloseAfterClose sink
        else ⟨{ sink with client := sink.client.close.2, closed := true },
          failureOf .cloudCloseFailed closing⟩ := by
  by_cases hmem : .close ∈ ops
  · rw [if_pos hmem, close_of_closed (h.closed.2 hmem)]
  · have hclose : Client.close sink.client = (closing, sink.client.close.2) :=
      Prod.ext h.closing rfl
    rw [if_neg hmem, close_of_open (h.closed_eq_false hmem) hclose]

theorem settles (h : Serves name answers closing ops sink) (record : Record) :
    Settles sink record (sink.write record) (fate answers ops record) := by
  have hanswer := h.answer_eq [.ofRecord sink.logName record]
  rw [h.write_eq record]
  obtain ⟨hfate, -⟩ | ⟨hfate, -⟩ | ⟨hfate, -, -, hok⟩ | ⟨error, hfate, -, -, herror⟩ :=
    fate_cases answers ops record
  · rw [hfate]
    exact ⟨rfl, rfl⟩
  · rw [hfate]
    exact ⟨rfl, rfl⟩
  · rw [hfate]
    exact ⟨hanswer.trans hok, rfl, rfl⟩
  · rw [hfate]
    exact ⟨hanswer.trans herror, rfl, rfl⟩

theorem reported_close (h : Serves name answers closing ops sink) :
    reported sink.close.diagnostics
      = if .close ∈ ops then [(.warn, [])]
        else match closing with
          | .ok () => []
          | .error error => [(.error, [("error", error.message)])] := by
  rw [h.close_eq]
  split
  · rfl
  · cases closing <;> rfl

end Serves

/-! ## The balance of a run -/

/-- Whether a call hands over entries. -/
def isSend : ClientCall → Bool
  | .send _ => true
  | .close => false

/-- How many of the calls that hand over entries meet the answer `ok` of a script. -/
def acceptedSends (answers : List CloudAnswer) (calls : List ClientCall) : Nat :=
  (List.range (calls.countP isSend)).countP fun n => (answers.getD n (.ok ())).isOk

/-- Whether a diagnostic is an error about a record. -/
def losesRecord (diagnostic : Diagnostic) : Bool :=
  diagnostic.level = .error && "rpc_id" ∈ diagnostic.fields.map (·.1)

theorem countP_isSend_clientCalls (name : String) (ops : List SinkOp) :
    (clientCalls name ops).countP isSend = submitted ops := by
  have hclose : (if SinkOp.close ∈ ops then [ClientCall.close] else []).countP isSend = 0 := by
    split <;> rfl
  rw [clientCalls, List.countP_append, hclose, Nat.add_zero, List.countP_filterMap, submitted]
  refine List.countP_congr fun op _ => ?_
  cases op with
  | write record =>
    by_cases hs : record.service = excludedService <;> simp [submission?, loggable, hs, isSend]
  | close | drain => simp [submission?, loggable]

theorem acceptedSends_append_send (answers : List CloudAnswer) (calls : List ClientCall)
    (entries : List Entry) :
    acceptedSends answers (calls ++ [.send entries])
      = acceptedSends answers calls
        + if (answers.getD (calls.countP isSend) (.ok ())).isOk then 1 else 0 := by
  have hcount : (calls ++ [ClientCall.send entries]).countP isSend = calls.countP isSend + 1 := by
    simp [isSend]
  rw [acceptedSends, hcount, List.range_succ, List.countP_append, List.countP_singleton]
  rfl

theorem acceptedSends_append_close (answers : List CloudAnswer) (calls : List ClientCall) :
    acceptedSends answers (calls ++ [.close]) = acceptedSends answers calls := by
  simp [acceptedSends, isSend]

namespace Serves

variable {name : String} {answers : List CloudAnswer} {closing : CloudAnswer}
  {ops : List SinkOp} {sink : CloudSink ScriptedClient}

theorem acceptedSends_write (h : Serves name answers closing ops sink) (entries : List Entry) :
    acceptedSends answers (sink.client.send entries).2.calls
      = acceptedSends answers sink.client.calls
        + if (answers.getD (submitted ops) (.ok ())).isOk then 1 else 0 := by
  rw [ScriptedClient.send, acceptedSends_append_send, h.calls, countP_isSend_clientCalls]

theorem balance_write (h : Serves name answers closing ops sink) (record : Record) :
    acceptedSends answers sink.client.calls + [SinkOp.write record].countP loggable
      = acceptedSends answers (sink.write record).value.client.calls
        + (sink.write record).diagnostics.countP losesRecord := by
  have hsent := h.acceptedSends_write [.ofRecord sink.logName record]
  rw [h.write_eq record, List.countP_singleton]
  obtain ⟨hfate, hs⟩ | ⟨hfate, hs, -⟩ | ⟨hfate, hs, -, hok⟩ | ⟨error, hfate, hs, -, herror⟩ :=
    fate_cases answers ops record
  · rw [hfate, hs]
    rfl
  · rw [hfate, hs]
    rfl
  · rw [hok] at hsent
    simp only [hfate, hs, hsent]
    rfl
  · rw [herror] at hsent
    simp only [hfate, hs, hsent]
    rfl

theorem balance_close (h : Serves name answers closing ops sink) :
    acceptedSends answers sink.client.calls
      = acceptedSends answers sink.close.value.client.calls
        + sink.close.diagnostics.countP losesRecord := by
  rw [h.close_eq]
  split
  · rfl
  · have hreport : (failureOf .cloudCloseFailed closing).countP losesRecord = 0 := by
      cases closing <;> rfl
    rw [hreport, ScriptedClient.close, acceptedSends_append_close]
    rfl

/-- One operation keeps the balance: a loggable write adds one, to the accepted records or to the
errors about records, and nothing else adds any. -/
theorem balance (h : Serves name answers closing ops sink) (op : SinkOp) :
    acceptedSends answers sink.client.calls + [op].countP loggable
      = acceptedSends answers (Sink.apply sink op).value.client.calls
        + (Sink.apply sink op).diagnostics.countP losesRecord := by
  cases op with
  | write record => exact h.balance_write record
  | close => exact h.balance_close
  | drain => rfl

end Serves

theorem serves_applyAll (project : String) (answers : List CloudAnswer) (closing : CloudAnswer)
    (ops : List SinkOp) :
    Serves (logNameOf project) answers closing ops
      (Sink.applyAll (ofClient project (ScriptedClient.ofScript answers closing)) ops) :=
  Sink.applyAll_inv (Serves.start project answers closing) (fun _ _ op h => h.apply op) ops

theorem countP_loggable (project : String) (answers : List CloudAnswer) (closing : CloudAnswer)
    (ops : List SinkOp) :
    let start := ofClient project (ScriptedClient.ofScript answers closing)
    ops.countP loggable
      = acceptedSends answers (Sink.applyAll start ops).client.calls
        + (Sink.report start ops).countP losesRecord := by
  intro start
  induction ops using List.reverseRecOn with
  | nil => rfl
  | append_singleton ops op ih =>
    have hserves : Serves _ answers closing ops (Sink.applyAll start ops) :=
      serves_applyAll project answers closing ops
    have hbalance := hserves.balance op
    rw [List.countP_append, ih, Sink.applyAll_append, Sink.report_append, List.countP_append,
      Sink.report, Sink.report, List.append_nil, Sink.applyAll_cons, Sink.applyAll_nil]
    omega

/-- **No record is lost in silence.** After any history, a write settles its record by the fate that
the history decides: an excluded record leaves no trace, an accepted one nothing above TRACE, and a
refused or a late one exactly one error with its `rpc_id`. A close reports nothing above TRACE when
it is the first and succeeds, one error when it is the first and fails, and one warning later. So
over any run the loggable writes are as many as the accepted records and the errors about records. -/
theorem no_silent_loss (project : String) (answers : List CloudAnswer) (closing : CloudAnswer) :
    let start := ofClient project (ScriptedClient.ofScript answers closing)
    (∀ (before : List SinkOp) (record : Record),
        let sink := Sink.applyAll start before
        Settles sink record (Sink.apply sink (.write record)) (fate answers before record))
      ∧ (∀ before : List SinkOp,
          reported (Sink.apply (Sink.applyAll start before) .close).diagnostics
            = if .close ∈ before then [(.warn, [])]
              else match closing with
                | .ok () => []
                | .error error => [(.error, [("error", error.message)])])
      ∧ ∀ ops : List SinkOp,
          ops.countP loggable
            = acceptedSends answers (Sink.applyAll start ops).client.calls
              + (Sink.report start ops).countP losesRecord := by
  intro start
  have hserves := serves_applyAll project answers closing
  exact ⟨fun before record => (hserves before).settles record,
    fun before => (hserves before).reported_close, countP_loggable project answers closing⟩

end CallLog.CloudSink
