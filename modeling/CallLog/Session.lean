import CallLog.Logger
import CallLog.Sink.Basic

/-!
# Sessions

A logger at work on a sink. A call event is assembled into a record and handed to the sink; an event
that breaks the contract is refused before the sink, or anyone else, hears of it. What the sink does
with a record never changes the outcome of an event.
-/

namespace CallLog

/-- A logger and the sink that it hands records to. -/
structure Session (σ : Type) where
  logger : Logger
  sink : σ

/-- What can be done in a session. -/
inductive Action where
  | log (call : Call)
  | write (record : Record)
  | close
  | setClock (reading : Int)
  | clone
  | records
  | take

/-- What an action comes to. -/
inductive Outcome where
  | done
  | refused (violation : InvalidCall)
  | records (records : List Record)
  deriving DecidableEq

/-- An action's outcome and the session after it. -/
structure Step (σ : Type) where
  outcome : Outcome
  session : Session σ

namespace Session

variable {σ : Type}

/-- A step in which only the sink changes, as done by the sink itself. -/
def viaSink (session : Session σ) (sink : Traced σ) : Traced (Step σ) :=
  sink.map fun sink => ⟨.done, { session with sink := sink }⟩

variable [Sink σ]

/-- Hands the record of a call event to the sink, or refuses the event. -/
def log (session : Session σ) (call : Call) : Traced (Step σ) :=
  match session.logger.assemble call with
  | .error violation => .silent ⟨.refused violation, session⟩
  | .ok record =>
    (session.viaSink (Sink.write session.sink record)).after
      (.handingOver record.rpcId record.sequence record.kind)

/-- Performs an action. A record can be written past the logger, and a logger with another clock
can take over; a clone of a logger is the logger. -/
def step (session : Session σ) : Action → Traced (Step σ)
  | .log call => session.log call
  | .write record => session.viaSink (Sink.write session.sink record)
  | .close => session.viaSink (Sink.close session.sink)
  | .setClock reading =>
    .silent ⟨.done, { session with logger := { session.logger with clock := reading } }⟩
  | .clone => .silent ⟨.done, session⟩
  | .records => .silent ⟨.records (Sink.held session.sink), session⟩
  | .take =>
    .silent ⟨.records (Sink.held session.sink),
      { session with sink := Sink.drain session.sink }⟩

/-- Performs actions one after another and keeps every step. -/
def run (session : Session σ) : List Action → List (Traced (Step σ))
  | [] => []
  | action :: rest =>
    let step := session.step action
    step :: step.value.session.run rest

/-- The session after all actions. -/
def after (session : Session σ) (actions : List Action) : Session σ :=
  actions.foldl (fun session action => (session.step action).value.session) session

/-! ## Refusal and acceptance -/

/-- A refused event leaves the session as it is and makes no noise. -/
theorem log_of_violation {session : Session σ} {call : Call} {violation : InvalidCall}
    (h : call.violation? = some violation) :
    session.log call = .silent ⟨.refused violation, session⟩ := by
  rw [log, (Logger.assemble_eq_error_iff session.logger call violation).2 h]

/-- An accepted event has its record written to the sink. -/
theorem log_of_accepted {session : Session σ} {call : Call} (h : call.violation? = none) :
    session.log call
      = (session.viaSink (Sink.write session.sink (session.logger.record call))).after
        (.handingOver call.info.rpcId (session.logger.record call).sequence call.event.kind) := by
  rw [log, (Logger.assemble_eq_ok_iff session.logger call _).2 ⟨h, rfl⟩]
  simp

/-! ## Several actions -/

@[simp] theorem after_nil (session : Session σ) : session.after [] = session := rfl

@[simp] theorem after_cons (session : Session σ) (action : Action) (rest : List Action) :
    session.after (action :: rest) = (session.step action).value.session.after rest := rfl

end Session
end CallLog
