import CallLog.Proofs.SinkOps
import CallLog.Sink.Memory

/-!
# Every accepted call is delivered once

A sink is put under watch (`Watched`) to see which records a session writes to it. The watch changes
nothing: without it the run has the same outcomes, diagnostics and sinks (`run_unwatched`). What it
sees are the records of the accepted calls, one for each and in order (`records_ops`), each made from
the call, the clock's reading at it and the ceilings. Which calls are accepted is decided by
`Call.Breaches` alone, and a refused one leaves no trace. `deliveries_of_run` puts these together for
any sink and any run that writes through the logger only.
-/

namespace CallLog

/-! ## The contract, call by call -/

/-- The calls that break the contract: a peer with the client's request header or the server's
response header, and a message event that is neither a request nor a response message. -/
def Call.Breaches (call : Call) : Prop :=
  match call.event with
  | .requestHeader _ _ _ peer => call.info.side = .client ∧ peer ≠ none
  | .responseHeader _ peer => call.info.side = .server ∧ peer ≠ none
  | .trailer .. => False
  | .message kind _ => kind ≠ .requestMessage ∧ kind ≠ .responseMessage

instance (call : Call) : Decidable call.Breaches :=
  match call with
  | ⟨_, .requestHeader ..⟩ | ⟨_, .responseHeader ..⟩ => inferInstanceAs (Decidable (_ ∧ _))
  | ⟨_, .trailer ..⟩ => inferInstanceAs (Decidable False)
  | ⟨_, .message ..⟩ => inferInstanceAs (Decidable (_ ∧ _))

/-- The outcome of logging a call, whoever logs it and wherever to. -/
def Call.verdict (call : Call) : Outcome :=
  match call.violation? with
  | some violation => .refused violation
  | none => .done

theorem Call.violation?_eq_none_iff (call : Call) : call.violation? = none ↔ ¬call.Breaches := by
  obtain ⟨info, event⟩ := call
  cases event with
  | requestHeader | responseHeader =>
    simp [violation?, CallEvent.violation?, Breaches, ← Option.isSome_iff_ne_none]
  | trailer => simp [violation?, CallEvent.violation?, Breaches]
  | message kind body =>
    simp only [violation?, CallEvent.violation?, Breaches, ← not_or, Classical.not_not]
    by_cases h : kind.IsMessage
    · exact iff_of_true (if_pos h) h
    · exact iff_of_false (by simp [h]) h

/-- A message event that keeps the contract is of a kind that carries a message. -/
theorem Call.isMessage_of_accepted {info : CallInfo} {kind : EventKind} {body : Bytes}
    (h : ¬(Call.mk info (.message kind body)).Breaches) : kind.IsMessage := by
  simpa [Breaches, EventKind.IsMessage, Classical.or_iff_not_imp_left] using h

/-- Exactly the calls that break the contract are refused. -/
theorem Call.refused_iff (call : Call) :
    (∃ violation, call.verdict = .refused violation) ↔ call.Breaches := by
  have hiff := call.violation?_eq_none_iff
  unfold verdict
  cases hv : call.violation? with
  | none =>
    refine iff_of_false ?_ (hiff.1 hv)
    rintro ⟨_, h⟩
    cases h
  | some violation =>
    refine iff_of_true ⟨violation, rfl⟩ (Classical.byContradiction fun h => ?_)
    rw [hiff.2 h] at hv
    cases hv

/-! ## Watching a sink -/

/-- A sink that also remembers which records were written to it. -/
structure Watched (σ : Type) where
  sink : σ
  written : List Record

variable {σ : Type}

/-- A session under watch as it is without the watch. -/
def Session.unwatched (session : Session (Watched σ)) : Session σ :=
  ⟨session.logger, session.sink.sink⟩

/-- A step under watch as it is without the watch. -/
def Step.unwatched (step : Step (Watched σ)) : Step σ := ⟨step.outcome, step.session.unwatched⟩

/-- A session with its sink put under watch. -/
def Session.watched (session : Session σ) : Session (Watched σ) :=
  ⟨session.logger, ⟨session.sink, []⟩⟩

variable [Sink σ]

instance : Sink (Watched σ) where
  write watched record :=
    (Sink.write watched.sink record).map fun sink => ⟨sink, watched.written ++ [record]⟩
  close watched := (Sink.close watched.sink).map fun sink => ⟨sink, watched.written⟩
  held watched := Sink.held watched.sink
  drain watched := { watched with sink := Sink.drain watched.sink }

namespace Session

/-- The watch shows in no step. -/
theorem step_unwatched (session : Session (Watched σ)) (action : Action) :
    (session.step action).map Step.unwatched = session.unwatched.step action := by
  cases action with
  | log call =>
    cases hv : call.violation? with
    | none => simp only [step, log_of_accepted hv]; rfl
    | some violation => simp only [step, log_of_violation hv]; rfl
  | write | close | setClock | clone | records | take => rfl

/-- **The watch shows in no run**: outcomes, diagnostics and sinks are those without it. -/
theorem run_unwatched (session : Session (Watched σ)) (actions : List Action) :
    (session.run actions).map (·.map Step.unwatched) = session.unwatched.run actions := by
  induction actions generalizing session with
  | nil => rfl
  | cons action rest ih =>
    have hstep := step_unwatched session action
    rw [run, run, List.map_cons, ih, ← hstep]
    rfl

end Session

/-! ## What is written -/

theorem written_applyAll (watched : Watched σ) (ops : List SinkOp) :
    (Sink.applyAll watched ops).written = watched.written ++ ops.filterMap SinkOp.record? := by
  induction ops generalizing watched with
  | nil => simp
  | cons op ops ih =>
    rw [Sink.applyAll_cons, ih]
    cases op with
    | write record => exact List.append_assoc watched.written [record] _
    | close | drain => rfl

/-- The calls among actions that keep the contract, each with the clock's reading at it. -/
def acceptedCalls (reading : Int) : List Action → List (Int × Call)
  | [] => []
  | .log call :: rest =>
    if call.Breaches then acceptedCalls reading rest
    else (reading, call) :: acceptedCalls reading rest
  | .setClock reading' :: rest => acceptedCalls reading' rest
  | _ :: rest => acceptedCalls reading rest

/-- What actions write are the records of their accepted calls, unless one writes past the
logger. -/
theorem records_ops (logger : Logger) {actions : List Action}
    (h : ∀ record, Action.write record ∉ actions) :
    (logger.ops actions).filterMap SinkOp.record?
      = (acceptedCalls logger.clock actions).map
          fun (reading, call) => Logger.record ⟨reading, logger.ceilings⟩ call := by
  induction actions generalizing logger with
  | nil => rfl
  | cons action rest ih =>
    have hrest : ∀ record, Action.write record ∉ rest := fun record hr =>
      h record (List.mem_cons_of_mem _ hr)
    rw [Logger.ops, List.filterMap_append, ih _ hrest]
    cases action with
    | write record => exact absurd List.mem_cons_self (h record)
    | log call =>
      by_cases hb : call.Breaches
      · have hv : call.violation? ≠ none := fun hnone => call.violation?_eq_none_iff.1 hnone hb
        rw [Logger.op?, if_neg hv, acceptedCalls, if_pos hb]
        rfl
      · have hv : call.violation? = none := call.violation?_eq_none_iff.2 hb
        rw [Logger.op?, if_pos hv, acceptedCalls, if_neg hb]
        rfl
    | close | setClock | clone | records | take => rfl

/-! ## Runs -/

namespace Session

/-- A call comes to its verdict, in any state of any sink. A refused one is silent and leaves the
session as it was. -/
theorem step_log (session : Session σ) (call : Call) :
    (session.step (.log call)).value.outcome = call.verdict
      ∧ (call.Breaches → session.step (.log call) = .silent ⟨call.verdict, session⟩) := by
  unfold Call.verdict
  cases hv : call.violation? with
  | none =>
    have hkeeps : ¬call.Breaches := call.violation?_eq_none_iff.1 hv
    have hstep : session.step (.log call) = _ := log_of_accepted hv
    rw [hstep]
    exact ⟨rfl, fun hb => absurd hb hkeeps⟩
  | some violation =>
    have hstep : session.step (.log call) = _ := log_of_violation hv
    rw [hstep]
    exact ⟨rfl, fun _ => rfl⟩

/-- The records that a session hands to its sink for a call. -/
def delivered (session : Session σ) (call : Call) : List Record :=
  (session.watched.step (.log call)).value.session.sink.written

theorem delivered_of_accepted (session : Session σ) {call : Call} (h : ¬call.Breaches) :
    session.delivered call = [session.logger.record call] := by
  rw [delivered, session_step, written_applyAll, Logger.op?,
    if_pos (call.violation?_eq_none_iff.2 h)]
  rfl

/-- **Every accepted call is delivered once, and a refused one leaves no trace.** For any sink and
any run that writes through the logger only: putting the sink under watch changes nothing; the
records written are those of the accepted calls, in order; and each call comes to its verdict, which
is a refusal exactly if the call breaks the contract, and then nothing is reported and the session
stays where the actions before it led. -/
theorem deliveries_of_run (session : Session σ) (actions : List Action)
    (h : ∀ record, Action.write record ∉ actions) :
    (session.watched.run actions).map (·.map Step.unwatched) = session.run actions
      ∧ (session.watched.after actions).sink.written
        = (acceptedCalls session.logger.clock actions).map
            (fun (reading, call) => Logger.record ⟨reading, session.logger.ceilings⟩ call)
      ∧ ∀ (i : Nat) (call : Call), actions[i]? = some (.log call) →
          ∃ step, (session.run actions)[i]? = some step
            ∧ step.value.outcome = call.verdict
            ∧ ((∃ violation, call.verdict = .refused violation) ↔ call.Breaches)
            ∧ (call.Breaches →
                step = .silent ⟨call.verdict, session.after (actions.take i)⟩) := by
  refine ⟨run_unwatched session.watched actions, ?_, fun i call hi => ?_⟩
  · rw [after_eq, written_applyAll, records_ops _ h]
    rfl
  · obtain ⟨houtcome, hsilent⟩ := step_log (session.after (actions.take i)) call
    refine ⟨_, ?_, houtcome, call.refused_iff, hsilent⟩
    rw [run_getElem?, hi, Option.map_some]

/-- A run with a refused call, another clock and a call after the close. -/
theorem deliveries_of_run_in_memory :
    let info : CallInfo := ⟨1, "service", "method", "1", .client⟩
    let header : Call := ⟨info, .responseHeader [⟨"key", [7]⟩] (some (.other "peer"))⟩
    let refused : Call := ⟨info, .requestHeader "host" none [] (some (.other "peer"))⟩
    let message : Call := ⟨info, .message .requestMessage [1, 2]⟩
    let session : Session MemorySink := ⟨⟨5, .unlimited⟩, .empty⟩
    let actions : List Action := [.log header, .log refused, .setClock 9, .close, .log message]
    (∀ record, Action.write record ∉ actions)
      ∧ (session.watched.after actions).sink.written
        = [Logger.record ⟨5, .unlimited⟩ header, Logger.record ⟨9, .unlimited⟩ message]
      ∧ (session.run actions)[1]?
        = some (.silent ⟨.refused .peerFromClient, session.after [.log header]⟩) := by
  intro info header refused message session actions
  have hlogger : ∀ record, Action.write record ∉ actions := by simp [actions]
  obtain ⟨-, hwritten, hcalls⟩ := deliveries_of_run session actions hlogger
  obtain ⟨step, hstep, -, -, hsilent⟩ := hcalls 1 refused rfl
  refine ⟨hlogger, hwritten, ?_⟩
  rw [hstep, hsilent (by decide)]
  rfl

end Session
end CallLog
