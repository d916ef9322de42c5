import CallLog.Proofs.Assembly
import CallLog.Proofs.ClientCalls
import CallLog.Proofs.MemoryHistory
import CallLog.Proofs.RecordJson

/-!
# Calls do not show in the logs of other calls

Calls with several `rpc_id`s are logged through one logger, in any order. `isolated_of_run`: what comes
of the calls with one of them is the same if the events of all others are deleted from the run
(`Action.remains`). A deletion changes the operations on the sink, but not those that concern the
`rpc_id` (`ops_filter`), and which records are written in time can be told from these alone
(`timely_filter`). What a memory sink keeps and what a cloud sink hands to its client are functions of
the records written in time, so they lose the other calls and nothing else, although the client may
answer otherwise in the two runs.
-/

namespace CallLog

/-! ## Deletion -/

/-- Whether an action remains when the call events of other `rpc_id`s are deleted. -/
def Action.remains (rpcId : String) : Action → Bool
  | .log call => call.info.rpcId = rpcId
  | .write _ | .close | .setClock _ | .clone | .records | .take => true

/-- The call that an action logs, if it has the `rpc_id`. -/
def Action.callOf? (rpcId : String) : Action → Option Call
  | .log call => if call.info.rpcId = rpcId then some call else none
  | .write _ | .close | .setClock _ | .clone | .records | .take => none

/-- Whether an operation writes no record of another `rpc_id`. -/
def SinkOp.concerns (rpcId : String) : SinkOp → Bool
  | .write record => record.rpcId = rpcId
  | .close | .drain => true

theorem Action.eq_log_of_not_remains {rpcId : String} {action : Action}
    (h : ¬action.remains rpcId = true) : ∃ call, action = .log call ∧ call.info.rpcId ≠ rpcId := by
  cases action with
  | log call => exact ⟨call, rfl, by simpa [remains] using h⟩
  | write | close | setClock | clone | records | take => exact absurd rfl h

/-- Deleting the events of other calls changes no operation that concerns the `rpc_id`. -/
theorem Logger.ops_filter (rpcId : String) (logger : Logger) (actions : List Action) :
    (logger.ops (actions.filter (·.remains rpcId))).filter (·.concerns rpcId)
      = (logger.ops actions).filter (·.concerns rpcId) := by
  induction actions generalizing logger with
  | nil => rfl
  | cons action rest ih =>
    by_cases h : action.remains rpcId = true
    · rw [List.filter_cons_of_pos h, ops, ops, List.filter_append, List.filter_append, ih]
    · obtain ⟨call, rfl, hne⟩ := Action.eq_log_of_not_remains h
      have hnone : (logger.op? (.log call)).toList.filter (·.concerns rpcId) = [] := by
        simp only [op?]
        split
        · simp [SinkOp.concerns, hne]
        · rfl
      rw [List.filter_cons_of_neg h, ih, ops, List.filter_append, hnone, List.nil_append]
      rfl

/-- The records of an `rpc_id` written in time can be told from the operations that concern it. -/
theorem SinkOp.timely_filter (rpcId : String) (ops : List SinkOp) :
    (timely ops).filter (·.rpcId = rpcId) = timely (ops.filter (·.concerns rpcId)) := by
  induction ops with
  | nil => rfl
  | cons op ops ih =>
    cases op with
    | write record => by_cases h : record.rpcId = rpcId <;> simp [concerns, h, ih]
    | close => simp [concerns]
    | drain => simpa [concerns] using ih

theorem Logger.timely_ops_filter (rpcId : String) (logger : Logger) (actions : List Action) :
    (SinkOp.timely (logger.ops (actions.filter (·.remains rpcId)))).filter (·.rpcId = rpcId)
      = (SinkOp.timely (logger.ops actions)).filter (·.rpcId = rpcId) := by
  rw [SinkOp.timely_filter, ops_filter, ← SinkOp.timely_filter]

/-! ## Outcomes -/

namespace Session

variable {σ : Type} [Sink σ]

/-- The outcomes of the calls with an `rpc_id`, in order. -/
def outcomesOf (rpcId : String) (session : Session σ) (actions : List Action) : List Outcome :=
  (actions.zip (session.run actions)).filterMap fun (action, step) =>
    (action.callOf? rpcId).map fun _ => step.value.outcome

/-- A call comes to its verdict, so its outcome says nothing of the session. -/
theorem map_outcome_callOf? (rpcId : String) (session : Session σ) (action : Action) :
    ((action.callOf? rpcId).map fun _ => (session.step action).value.outcome)
      = (action.callOf? rpcId).map Call.verdict := by
  cases action with
  | log call =>
    simp only [Action.callOf?]
    split
    · exact congrArg some (session.step_log call).1
    · rfl
  | write | close | setClock | clone | records | take => rfl

theorem outcomesOf_eq (rpcId : String) (session : Session σ) (actions : List Action) :
    session.outcomesOf rpcId actions = (actions.filterMap (·.callOf? rpcId)).map Call.verdict := by
  induction actions generalizing session with
  | nil => rfl
  | cons action rest ih =>
    have hrest := ih (session.step action).value.session
    unfold outcomesOf at hrest ⊢
    simp only [run, List.zip_cons_cons, List.filterMap_cons, hrest, map_outcome_callOf?]
    cases action.callOf? rpcId <;> rfl

end Session

theorem Action.filterMap_callOf?_filter (rpcId : String) (actions : List Action) :
    (actions.filter (·.remains rpcId)).filterMap (·.callOf? rpcId)
      = actions.filterMap (·.callOf? rpcId) := by
  rw [List.filterMap_filter]
  refine List.filterMap_congr fun action _ => ?_
  cases action with
  | log call => by_cases h : call.info.rpcId = rpcId <;> simp [remains, callOf?, h]
  | write | close | setClock | clone | records | take => rfl

/-! ## Entries -/

/-- Whether an entry is about a call with an `rpc_id`. -/
def Entry.isOf (rpcId : String) (entry : Entry) : Bool :=
  match entry.payload.get? "rpc_id" with
  | some (.str text) => text = rpcId
  | _ => false

theorem Entry.isOf_ofRecord (rpcId logName : String) (record : Record) :
    (ofRecord logName record).isOf rpcId = decide (record.rpcId = rpcId) := by
  have hget : record.payload.get? "rpc_id" = some (.str record.rpcId) := by
    simp [Record.get?_payload, Record.slots, List.lookup_cons, Json.sortKeys]
  simp only [isOf, ofRecord, hget]

/-! ## Runs -/

namespace MemorySink

/-- The records of an `rpc_id` that a memory sink keeps in a run: those taken, then those held. -/
def keptOf (rpcId : String) (logger : Logger) (actions : List Action) : List Record :=
  let start : Session MemorySink := ⟨logger, .empty⟩
  (start.taken actions ++ (start.after actions).sink.records).filter (·.rpcId = rpcId)

end MemorySink

namespace CloudSink

/-- The entries of an `rpc_id` that the client of a cloud sink is handed in a run. -/
def handedOf (rpcId : String) (logger : Logger) (start : CloudSink ScriptedClient)
    (actions : List Action) : List Entry :=
  let session : Session (CloudSink ScriptedClient) := ⟨logger, start⟩
  ((session.after actions).sink.client.calls.flatMap ClientCall.entries).filter (·.isOf rpcId)

theorem handedOf_eq (rpcId : String) (logger : Logger) (project : String)
    (answers : List CloudAnswer) (closing : CloudAnswer) (actions : List Action) :
    handedOf rpcId logger (ofClient project (.ofScript answers closing)) actions
      = (((SinkOp.timely (logger.ops actions)).filter (·.rpcId = rpcId)).filter
          (·.service ≠ excludedService)).map (Entry.ofRecord (logNameOf project)) := by
  have hfollows := follows_applyAll project answers closing (logger.ops actions)
  simp only [handedOf, Session.after_eq]
  rw [hfollows.calls]
  generalize logNameOf project = logName
  have hisOf : Entry.isOf rpcId ∘ Entry.ofRecord logName
      = fun record => decide (record.rpcId = rpcId) := by
    funext record
    rw [Function.comp_apply, Entry.isOf_ofRecord]
  rw [entries_clientCalls, submittedRecords, List.filter_map, hisOf, List.filter_comm]

end CloudSink

namespace Session

/-- **Calls do not show in the logs of other calls.** For any run and any `rpc_id`, deleting the events
of all calls with other `rpc_id`s leaves as they are: the outcomes of its calls, on any sink and in
any state of it; the records of it that a memory sink keeps; and the entries of it that a cloud sink
hands to its client, whatever the client answers in the two runs. -/
theorem isolated_of_run (rpcId : String) (logger : Logger) (actions : List Action) :
    let own := actions.filter (·.remains rpcId)
    (∀ (σ : Type) [Sink σ] (sink sink' : σ),
        outcomesOf rpcId ⟨logger, sink⟩ actions = outcomesOf rpcId ⟨logger, sink'⟩ own)
      ∧ MemorySink.keptOf rpcId logger actions = MemorySink.keptOf rpcId logger own
      ∧ ∀ (project : String) (answers answers' : List CloudAnswer) (closing closing' : CloudAnswer),
          CloudSink.handedOf rpcId logger (.ofClient project (.ofScript answers closing)) actions
            = CloudSink.handedOf rpcId logger (.ofClient project (.ofScript answers' closing'))
              own := by
  intro own
  have htimely := logger.timely_ops_filter rpcId actions
  refine ⟨fun σ _ sink sink' => ?_, ?_, fun project answers answers' closing closing' => ?_⟩
  · rw [outcomesOf_eq, outcomesOf_eq, Action.filterMap_callOf?_filter]
  · simp only [MemorySink.keptOf, MemorySink.taken_append_records]
    exact htimely.symm
  · rw [CloudSink.handedOf_eq, CloudSink.handedOf_eq, htimely]

end Session
end CallLog
