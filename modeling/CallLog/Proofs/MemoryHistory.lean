import CallLog.Proofs.SinkOps
import CallLog.Sink.Memory
import Mathlib.Data.List.DropRight

/-!
# A memory sink neither loses, doubles nor reorders records

What a memory sink holds is decided by the history of operations on it: the records written before
the first close, less those that the last drain and the ones before it gave out. `Keeps` is the
invariant that says so, and every operation keeps it (`Keeps.apply`), whether it comes before or after
a close. What the drains gave out is the other part of the records written in time
(`drained_eq_timely`), so over any run what was taken and what is still held make up exactly these, in
order (`taken_append_records`). `history_of_run` adds what each action shows on the way: the records
since the last take, and one warning for every write or close that comes too late.
-/

namespace CallLog

/-! ## What takes give out -/

/-- The records that an outcome gives out. -/
def Outcome.given : Outcome → List Record
  | .records held => held
  | .done | .refused _ => []

/-- What a diagnostic shows: its level and its fields. -/
def Diagnostic.shown (diagnostic : Diagnostic) : Diagnostic.Level × List (String × String) :=
  (diagnostic.level, diagnostic.fields)

variable {σ : Type} [Sink σ]

/-- The records that the takes of a run give out, one after another. -/
def Session.taken (session : Session σ) (actions : List Action) : List Record :=
  (actions.zip (session.run actions)).flatMap fun
    | (.take, step) => step.value.outcome.given
    | _ => []

/-- The records that the drains of a history give out, one after another. -/
def Sink.drained (sink : σ) : List SinkOp → List Record
  | [] => []
  | op :: ops => (if op = .drain then held sink else []) ++ drained (apply sink op).value ops

theorem Sink.drained_append (sink : σ) (xs ys : List SinkOp) :
    drained sink (xs ++ ys) = drained sink xs ++ drained (applyAll sink xs) ys := by
  induction xs generalizing sink with
  | nil => rfl
  | cons op xs ih => rw [List.cons_append, drained, ih, drained, List.append_assoc, applyAll_cons]

theorem Session.taken_cons (session : Session σ) (action : Action) (rest : List Action) :
    session.taken (action :: rest)
      = (match action with
          | .take => (session.step action).value.outcome.given
          | _ => [])
        ++ (session.step action).value.session.taken rest := by
  cases action <;> rfl

/-- The takes of a run give out what the drains of its operations do. -/
theorem Session.taken_eq_drained (session : Session σ) (actions : List Action) :
    session.taken actions = Sink.drained session.sink (session.logger.ops actions) := by
  induction actions generalizing session with
  | nil => rfl
  | cons action rest ih =>
    rw [taken_cons, ih, session_step, Logger.ops, Sink.drained_append]
    congr 1
    cases action with
    | log call =>
      simp only [Logger.op?]
      split <;> rfl
    | take => exact (List.append_nil (Sink.held session.sink)).symm
    | write | close | setClock | clone | records => rfl

namespace MemorySink

/-! ## The invariant -/

/-- A history up to its last drain. -/
def upToDrain (ops : List SinkOp) : List SinkOp := ops.rdropWhile (· ≠ .drain)

/-- The records that a history writes in time and does not drain. -/
def untaken (ops : List SinkOp) : List Record :=
  (SinkOp.timely ops).drop (SinkOp.timely (upToDrain ops)).length

theorem upToDrain_append_drain (ops : List SinkOp) :
    upToDrain (ops ++ [.drain]) = ops ++ [.drain] :=
  List.rdropWhile_concat_neg _ _ _ (by simp)

theorem upToDrain_append_of_ne (ops : List SinkOp) {op : SinkOp} (h : op ≠ .drain) :
    upToDrain (ops ++ [op]) = upToDrain ops :=
  List.rdropWhile_concat_pos _ _ _ (by simpa using h)

/-- A sink is closed if its history holds a close, and it holds what came after the last drain of
the records written in time. -/
structure Keeps (ops : List SinkOp) (sink : MemorySink) : Prop where
  closed : sink.closed = true ↔ .close ∈ ops
  records : SinkOp.timely ops = SinkOp.timely (upToDrain ops) ++ sink.records

namespace Keeps

variable {ops : List SinkOp} {sink : MemorySink}

theorem start : Keeps [] .empty := ⟨by simp [empty], rfl⟩

theorem records_eq_untaken (h : Keeps ops sink) : sink.records = untaken ops := by
  rw [untaken, h.records, List.drop_left]

theorem write (h : Keeps ops sink) (record : Record) :
    Keeps (ops ++ [.write record]) (sink.write record).value := by
  have hdrain : upToDrain (ops ++ [.write record]) = upToDrain ops :=
    upToDrain_append_of_ne ops (by simp)
  have htimely := SinkOp.timely_append ops [.write record]
  unfold MemorySink.write
  by_cases hmem : .close ∈ ops
  · rw [if_pos (h.closed.2 hmem)]
    rw [if_pos hmem, List.append_nil] at htimely
    refine ⟨?_, by rw [hdrain, htimely]; exact h.records⟩
    exact iff_of_true (h.closed.2 hmem) (List.mem_append_left _ hmem)
  · rw [if_neg (mt h.closed.1 hmem)]
    rw [if_neg hmem] at htimely
    refine ⟨?_, ?_⟩
    · exact iff_of_false (mt h.closed.1 hmem) (by simp [hmem])
    · rw [hdrain, htimely, h.records, List.append_assoc]
      rfl

theorem close (h : Keeps ops sink) : Keeps (ops ++ [.close]) sink.close.value := by
  have hrecords : SinkOp.timely (ops ++ [.close])
      = SinkOp.timely (upToDrain (ops ++ [.close])) ++ sink.records := by
    rw [SinkOp.timely_append_of_record?_eq_none ops rfl, upToDrain_append_of_ne ops (by simp)]
    exact h.records
  have hmem : SinkOp.close ∈ ops ++ [.close] := by simp
  unfold MemorySink.close
  split
  next hclosed => exact ⟨iff_of_true hclosed hmem, hrecords⟩
  next => exact ⟨iff_of_true rfl hmem, hrecords⟩

theorem drain (h : Keeps ops sink) : Keeps (ops ++ [.drain]) sink.drain := by
  refine ⟨by simpa [MemorySink.drain] using h.closed, ?_⟩
  rw [upToDrain_append_drain]
  exact (List.append_nil _).symm

theorem apply (h : Keeps ops sink) (op : SinkOp) :
    Keeps (ops ++ [op]) (Sink.apply sink op).value := by
  cases op with
  | write record => exact h.write record
  | close => exact h.close
  | drain => exact h.drain

end Keeps

theorem keeps_applyAll (ops : List SinkOp) : Keeps ops (Sink.applyAll empty ops) :=
  Sink.applyAll_inv Keeps.start (fun _ _ op h => h.apply op) ops

/-! ## What drains give out -/

/-- The drains of a history give out what is written in time before the last of them. -/
theorem drained_eq_timely (ops : List SinkOp) :
    Sink.drained empty ops = SinkOp.timely (upToDrain ops) := by
  induction ops using List.reverseRecOn with
  | nil => rfl
  | append_singleton ops op ih =>
    have hkeeps := keeps_applyAll ops
    rw [Sink.drained_append, ih, Sink.drained, Sink.drained, List.append_nil]
    by_cases hop : op = .drain
    · subst hop
      rw [if_pos rfl, upToDrain_append_drain, SinkOp.timely_append_of_record?_eq_none ops rfl,
        hkeeps.records]
      rfl
    · rw [if_neg hop, upToDrain_append_of_ne ops hop, List.append_nil]

/-- What a run takes and what is left after it are the records written in time. -/
theorem taken_append_records (logger : Logger) (actions : List Action) :
    let start : Session MemorySink := ⟨logger, .empty⟩
    start.taken actions ++ (start.after actions).sink.records
      = SinkOp.timely (logger.ops actions) := by
  intro start
  have hkeeps := keeps_applyAll (logger.ops actions)
  rw [Session.taken_eq_drained, Session.after_eq, drained_eq_timely, hkeeps.records]

/-! ## What each action shows -/

/-- What the actions of a session on a memory sink do and show after a history. -/
structure Obeys (done : List SinkOp) (session : Session MemorySink) : Prop where
  closed : session.sink.closed = true ↔ .close ∈ done
  records : session.step .records = .silent ⟨.records (untaken done), session⟩
  take : session.step .take
    = .silent ⟨.records (untaken done), ⟨session.logger, ⟨[], session.sink.closed⟩⟩⟩
  write : ∀ record, (session.step (.write record)).diagnostics.map Diagnostic.shown
    = if .close ∈ done then [(.warn, [("rpc_id", record.rpcId)])] else []
  close : (session.step .close).diagnostics.map Diagnostic.shown
    = if .close ∈ done then [(.warn, [])] else []

theorem Keeps.obeys {done : List SinkOp} {session : Session MemorySink}
    (h : Keeps done session.sink) : Obeys done session := by
  obtain ⟨logger, sink⟩ := session
  have hrecords := h.records_eq_untaken
  refine ⟨h.closed, ?_, ?_, fun record => ?_, ?_⟩
  · rw [← hrecords]
    rfl
  · rw [← hrecords]
    rfl
  · show (sink.write record).diagnostics.map Diagnostic.shown = _
    unfold MemorySink.write
    simp only [h.closed]
    split <;> rfl
  · show sink.close.diagnostics.map Diagnostic.shown = _
    unfold MemorySink.close
    simp only [h.closed]
    split <;> rfl

/-- **A memory sink neither loses, doubles nor reorders records.** After any run, what all takes gave
out and what is held since are the records written before the first close, in order. Looking at the
records gives those written in time since the last take and changes nothing; taking gives the same
and leaves none, open or closed. A sink that is closed stays so. A write or a close that comes after
a close shows one warning, a write with the `rpc_id` of its record, and nothing else shows any. -/
theorem history_of_run (logger : Logger) (actions : List Action) :
    let start : Session MemorySink := ⟨logger, .empty⟩
    start.taken actions ++ (start.after actions).sink.records = SinkOp.timely (logger.ops actions)
      ∧ Obeys (logger.ops actions) (start.after actions)
      ∧ ∀ more, (start.after actions).sink.closed = true →
          (start.after (actions ++ more)).sink.closed = true := by
  intro start
  have hkeeps : ∀ actions, Keeps (logger.ops actions) (start.after actions).sink := by
    intro actions
    rw [Session.after_eq]
    exact keeps_applyAll _
  refine ⟨taken_append_records logger actions, (hkeeps actions).obeys, fun more hclosed => ?_⟩
  have hmem := (hkeeps actions).closed.1 hclosed
  refine (hkeeps (actions ++ more)).closed.2 ?_
  rw [Logger.ops_append]
  exact List.mem_append_left _ hmem

end MemorySink
end CallLog
