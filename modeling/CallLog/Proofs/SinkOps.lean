import CallLog.Session

/-!
# What a session does to its sink

A session acts on its sink through three operations only: it writes a record, closes the sink or
drains it (`SinkOp`). Which operations a run performs is decided by the logger and the actions alone
(`Logger.ops`), whatever the sink is or answers. `Session.after_eq`: a run leaves the logger that
the actions lead to, and the sink that these operations lead to, in order. So a property of sinks
that every operation keeps holds throughout every run.
-/

namespace CallLog

/-- An operation of a sink. -/
inductive SinkOp where
  | write (record : Record)
  | close
  | drain
  deriving DecidableEq

namespace SinkOp

/-! ## Histories -/

/-- The record that an operation writes, if any. -/
def record? : SinkOp → Option Record
  | .write record => some record
  | .close | .drain => none

/-- The records that a history writes before its first close. -/
def timely (ops : List SinkOp) : List Record := (ops.takeWhile (· ≠ .close)).filterMap record?

@[simp] theorem timely_cons_write (record : Record) (ops : List SinkOp) :
    timely (.write record :: ops) = record :: timely ops := by
  simp [timely, record?]

@[simp] theorem timely_cons_close (ops : List SinkOp) : timely (.close :: ops) = [] := by
  simp [timely]

@[simp] theorem timely_cons_drain (ops : List SinkOp) :
    timely (.drain :: ops) = timely ops := by
  simp [timely, List.filterMap_cons, record?]

theorem takeWhile_append_of_not_mem {xs : List SinkOp} (h : .close ∉ xs) (ys : List SinkOp) :
    (xs ++ ys).takeWhile (· ≠ .close) = xs ++ ys.takeWhile (· ≠ .close) := by
  apply List.takeWhile_append_of_pos
  intro op hop
  exact decide_eq_true fun he => h (he ▸ hop)

theorem takeWhile_of_not_mem {ops : List SinkOp} (h : .close ∉ ops) :
    ops.takeWhile (· ≠ .close) = ops := by
  simpa using takeWhile_append_of_not_mem h []

theorem takeWhile_append_of_mem {xs : List SinkOp} (h : .close ∈ xs) (ys : List SinkOp) :
    (xs ++ ys).takeWhile (· ≠ .close) = xs.takeWhile (· ≠ .close) := by
  obtain ⟨front, back, rfl, hfront⟩ := List.eq_append_cons_of_mem h
  rw [List.append_assoc, takeWhile_append_of_not_mem hfront, takeWhile_append_of_not_mem hfront]
  simp

/-- What a history goes on with adds its records only as long as there was no close. -/
theorem timely_append (xs ys : List SinkOp) :
    timely (xs ++ ys) = timely xs ++ if .close ∈ xs then [] else timely ys := by
  unfold timely
  split
  next h => rw [takeWhile_append_of_mem h, List.append_nil]
  next h =>
    rw [takeWhile_append_of_not_mem h, takeWhile_of_not_mem h, List.filterMap_append]

theorem timely_append_of_record?_eq_none (ops : List SinkOp) {op : SinkOp} (h : op.record? = none) :
    timely (ops ++ [op]) = timely ops := by
  have hop : timely [op] = [] := by
    cases op with
    | write => cases h
    | close | drain => rfl
  rw [timely_append, hop, ite_self, List.append_nil]

end SinkOp

namespace Sink

variable {σ : Type} [Sink σ]

/-! ## Operations -/

/-- The sink after an operation. -/
def apply (sink : σ) : SinkOp → Traced σ
  | .write record => write sink record
  | .close => close sink
  | .drain => .silent (drain sink)

/-- The sink after several operations. -/
def applyAll (sink : σ) (ops : List SinkOp) : σ :=
  ops.foldl (fun sink op => (apply sink op).value) sink

@[simp] theorem applyAll_nil (sink : σ) : applyAll sink [] = sink := rfl

@[simp] theorem applyAll_cons (sink : σ) (op : SinkOp) (ops : List SinkOp) :
    applyAll sink (op :: ops) = applyAll (apply sink op).value ops := rfl

theorem applyAll_append (sink : σ) (xs ys : List SinkOp) :
    applyAll sink (xs ++ ys) = applyAll (applyAll sink xs) ys := List.foldl_append

/-- What is reported while several operations are performed. -/
def report (sink : σ) : List SinkOp → List Diagnostic
  | [] => []
  | op :: ops => (apply sink op).diagnostics ++ report (apply sink op).value ops

theorem report_append (sink : σ) (xs ys : List SinkOp) :
    report sink (xs ++ ys) = report sink xs ++ report (applyAll sink xs) ys := by
  induction xs generalizing sink with
  | nil => rfl
  | cons op xs ih => rw [List.cons_append, report, ih, report, List.append_assoc, applyAll_cons]

/-- What every operation keeps, with the operations so far in view, holds after all of them. -/
theorem applyAll_inv {P : List SinkOp → σ → Prop} {sink : σ} (start : P [] sink)
    (step : ∀ ops s op, P ops s → P (ops ++ [op]) (apply s op).value) (ops : List SinkOp) :
    P ops (applyAll sink ops) := by
  suffices h : ∀ done s, P done s → P (done ++ ops) (applyAll s ops) from h [] sink start
  induction ops with
  | nil =>
    intro done s h
    simpa using h
  | cons op ops ih =>
    intro done s h
    have := ih (done ++ [op]) _ (step done s op h)
    rwa [List.append_assoc] at this

end Sink

namespace Logger

/-- The operation that an action performs on the sink, if any: a refused event performs none. -/
def op? (logger : Logger) : Action → Option SinkOp
  | .log call => if call.violation? = none then some (.write (logger.record call)) else none
  | .write record => some (.write record)
  | .close => some .close
  | .take => some .drain
  | .setClock _ | .clone | .records => none

/-- The logger after an action. -/
def next (logger : Logger) : Action → Logger
  | .setClock reading => { logger with clock := reading }
  | _ => logger

/-- The operations that actions perform on the sink, in order. -/
def ops (logger : Logger) : List Action → List SinkOp
  | [] => []
  | action :: rest => (logger.op? action).toList ++ (logger.next action).ops rest

theorem ops_append (logger : Logger) (xs ys : List Action) :
    logger.ops (xs ++ ys) = logger.ops xs ++ (xs.foldl next logger).ops ys := by
  induction xs generalizing logger with
  | nil => rfl
  | cons action xs ih => rw [List.cons_append, ops, ih, ops, List.append_assoc, List.foldl_cons]

end Logger

namespace Session

variable {σ : Type} [Sink σ]

/-- One action leaves the logger it leads to and the sink its operation leads to. -/
theorem session_step (session : Session σ) (action : Action) :
    (session.step action).value.session
      = ⟨session.logger.next action,
          Sink.applyAll session.sink (session.logger.op? action).toList⟩ := by
  cases action with
  | log call =>
    cases hv : call.violation? with
    | none => simp [step, log_of_accepted hv, Logger.op?, Logger.next, hv, viaSink, Traced.map,
        Traced.after, Sink.apply]
    | some violation => simp [step, log_of_violation hv, Logger.op?, Logger.next, hv,
        Traced.silent]
  | write | close | setClock | clone | records | take => rfl

/-- A run leaves the logger that its actions lead to and the sink that their operations lead to. -/
theorem after_eq (session : Session σ) (actions : List Action) :
    session.after actions
      = ⟨actions.foldl Logger.next session.logger,
          Sink.applyAll session.sink (session.logger.ops actions)⟩ := by
  induction actions generalizing session with
  | nil => rfl
  | cons action rest ih =>
    rw [after_cons, ih, session_step, Logger.ops, Sink.applyAll_append]
    rfl

/-- The step at a place of a run is that of its action, from where the actions before it lead. -/
theorem run_getElem? (session : Session σ) (actions : List Action) (i : Nat) :
    (session.run actions)[i]?
      = actions[i]?.map fun action => (session.after (actions.take i)).step action := by
  induction actions generalizing session i with
  | nil => rfl
  | cons action rest ih =>
    cases i with
    | zero => rfl
    | succ i => simpa [run] using ih _ i

end Session
end CallLog
