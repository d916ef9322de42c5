import CallLog.Proofs.SinkOps
import CallLog.Sink.Configured

/-!
# Clients and sinks that cannot be told apart

A bisimulation of clients relates clients that answer every call alike and stay related. One of sinks
relates sinks that report the same of every operation, hold the same records, and stay related. Cloud
sinks over related clients are related (`CloudSink.bisimulation`), and so are configured sinks
(`ConfiguredSink.bisimulation`). Sessions of one logger on related sinks come to the same outcomes and
diagnostics in every run, and are still on related sinks after it (`Session.Alike.run`).
-/

namespace CallLog

variable {σ τ χ ψ : Type}

/-- A relation between clients that every call keeps and that shows in no answer. -/
structure Client.Bisimulation [Client χ] [Client ψ] (R : χ → ψ → Prop) : Prop where
  send : ∀ {a b}, R a b → ∀ entries, (Client.send a entries).1 = (Client.send b entries).1
    ∧ R (Client.send a entries).2 (Client.send b entries).2
  close : ∀ {a b}, R a b → (Client.close a).1 = (Client.close b).1
    ∧ R (Client.close a).2 (Client.close b).2

/-- A relation between sinks that every operation keeps and that shows in no diagnostic and in no
record held. -/
structure Sink.Bisimulation [Sink σ] [Sink τ] (R : σ → τ → Prop) : Prop where
  apply : ∀ {a b}, R a b → ∀ op, (Sink.apply a op).diagnostics = (Sink.apply b op).diagnostics
    ∧ R (Sink.apply a op).value (Sink.apply b op).value
  held : ∀ {a b}, R a b → Sink.held a = Sink.held b

/-! ## Cloud sinks -/

namespace CloudSink

/-- Sinks of one log, both open or both closed, over related clients. -/
structure Alike (R : χ → ψ → Prop) (a : CloudSink χ) (b : CloudSink ψ) : Prop where
  logName : a.logName = b.logName
  closed : a.closed = b.closed
  client : R a.client b.client

variable [Client χ] [Client ψ] {R : χ → ψ → Prop} {a : CloudSink χ} {b : CloudSink ψ}

theorem Alike.write (h : Alike R a b) (hR : Client.Bisimulation R) (record : Record) :
    (a.write record).diagnostics = (b.write record).diagnostics
      ∧ Alike R (a.write record).value (b.write record).value := by
  by_cases hs : record.service = excludedService
  · rw [write_of_excluded hs, write_of_excluded hs]
    exact ⟨rfl, h⟩
  cases hc : b.closed with
  | true =>
    rw [write_of_closed hs (h.closed.trans hc), write_of_closed hs hc]
    exact ⟨rfl, h⟩
  | false =>
    obtain ⟨hanswer, hclient⟩ := hR.send h.client [.ofRecord b.logName record]
    rw [write_of_open hs (h.closed.trans hc) (Prod.eta _).symm, h.logName,
      write_of_open hs hc (Prod.eta _).symm, hanswer]
    exact ⟨rfl, rfl, h.closed, hclient⟩

theorem Alike.close (h : Alike R a b) (hR : Client.Bisimulation R) :
    a.close.diagnostics = b.close.diagnostics ∧ Alike R a.close.value b.close.value := by
  cases hc : b.closed with
  | true =>
    rw [close_of_closed (h.closed.trans hc), close_of_closed hc]
    exact ⟨rfl, h⟩
  | false =>
    obtain ⟨hanswer, hclient⟩ := hR.close h.client
    rw [close_of_open (h.closed.trans hc) (Prod.eta _).symm, close_of_open hc (Prod.eta _).symm,
      hanswer]
    exact ⟨rfl, h.logName, rfl, hclient⟩

/-- **A cloud sink shows nothing of its client but the answers.** -/
theorem bisimulation (hR : Client.Bisimulation R) : Sink.Bisimulation (Alike R) where
  apply h op := by
    cases op with
    | write record => exact h.write hR record
    | close => exact h.close hR
    | drain => exact ⟨rfl, h⟩
  held _ := rfl

end CloudSink

/-! ## Configured sinks -/

namespace ConfiguredSink

/-- Sinks of one kind: cloud sinks over related clients, or the same sink of another kind. -/
inductive Alike (R : HttpClient → HttpClient → Prop) : ConfiguredSink → ConfiguredSink → Prop
  | discard (sink : DiscardSink) : Alike R (.discard sink) (.discard sink)
  | memory (sink : MemorySink) : Alike R (.memory sink) (.memory sink)
  | cloud {a b : CloudSink HttpClient} (h : CloudSink.Alike R a b) : Alike R (.cloud a) (.cloud b)

theorem apply_discard (sink : DiscardSink) (op : SinkOp) :
    Sink.apply (ConfiguredSink.discard sink) op = (Sink.apply sink op).map .discard := by
  cases op <;> rfl

theorem apply_memory (sink : MemorySink) (op : SinkOp) :
    Sink.apply (ConfiguredSink.memory sink) op = (Sink.apply sink op).map .memory := by
  cases op <;> rfl

theorem apply_cloud (sink : CloudSink HttpClient) (op : SinkOp) :
    Sink.apply (ConfiguredSink.cloud sink) op = (Sink.apply sink op).map .cloud := by
  cases op <;> rfl

theorem bisimulation {R : HttpClient → HttpClient → Prop} (hR : Client.Bisimulation R) :
    Sink.Bisimulation (Alike R) where
  apply h op := by
    cases h with
    | discard sink =>
      rw [apply_discard]
      exact ⟨rfl, .discard _⟩
    | memory sink =>
      rw [apply_memory]
      exact ⟨rfl, .memory _⟩
    | cloud h =>
      obtain ⟨hdiagnostics, hsink⟩ := (CloudSink.bisimulation hR).apply h op
      rw [apply_cloud, apply_cloud]
      exact ⟨hdiagnostics, .cloud hsink⟩
  held h := by cases h <;> rfl

end ConfiguredSink

/-! ## Sessions -/

namespace Session

/-- Sessions of one logger on related sinks. -/
structure Alike (R : σ → τ → Prop) (a : Session σ) (b : Session τ) : Prop where
  logger : a.logger = b.logger
  sink : R a.sink b.sink

namespace Alike

variable [Sink σ] [Sink τ] {R : σ → τ → Prop} {a : Session σ} {b : Session τ}

theorem step (h : Alike R a b) (hR : Sink.Bisimulation R) (action : Action) :
    (a.step action).value.outcome = (b.step action).value.outcome
      ∧ (a.step action).diagnostics = (b.step action).diagnostics
      ∧ Alike R (a.step action).value.session (b.step action).value.session := by
  obtain ⟨logger, a⟩ := a
  obtain ⟨logger', b⟩ := b
  obtain ⟨rfl, hsink⟩ := h
  have hheld : Sink.held a = Sink.held b := hR.held hsink
  cases action with
  | log call =>
    cases hv : call.violation? with
    | none =>
      obtain ⟨hdiagnostics, hwritten⟩ := hR.apply hsink (.write (logger.record call))
      simp only [Session.step, log_of_accepted hv]
      exact ⟨rfl, congrArg (_ :: ·) hdiagnostics, rfl, hwritten⟩
    | some violation =>
      simp only [Session.step, log_of_violation hv]
      exact ⟨rfl, rfl, rfl, hsink⟩
  | write record =>
    obtain ⟨hdiagnostics, hwritten⟩ := hR.apply hsink (.write record)
    exact ⟨rfl, hdiagnostics, rfl, hwritten⟩
  | close =>
    obtain ⟨hdiagnostics, hclosed⟩ := hR.apply hsink .close
    exact ⟨rfl, hdiagnostics, rfl, hclosed⟩
  | setClock | clone => exact ⟨rfl, rfl, rfl, hsink⟩
  | records => exact ⟨congrArg Outcome.records hheld, rfl, rfl, hsink⟩
  | take =>
    obtain ⟨-, hdrained⟩ := hR.apply hsink .drain
    exact ⟨congrArg Outcome.records hheld, rfl, rfl, hdrained⟩

/-- **Runs on related sinks come to the same.** -/
theorem run (h : Alike R a b) (hR : Sink.Bisimulation R) (actions : List Action) :
    (a.run actions).map (·.value.outcome) = (b.run actions).map (·.value.outcome)
      ∧ (a.run actions).map (·.diagnostics) = (b.run actions).map (·.diagnostics)
      ∧ Alike R (a.after actions) (b.after actions) := by
  induction actions generalizing a b with
  | nil => exact ⟨rfl, rfl, h⟩
  | cons action rest ih =>
    obtain ⟨houtcome, hdiagnostics, hnext⟩ := h.step hR action
    obtain ⟨houtcomes, hreports, hlast⟩ := ih hnext
    simp only [Session.run, List.map_cons, houtcome, hdiagnostics, houtcomes, hreports]
    exact ⟨trivial, trivial, hlast⟩

end Alike
end Session
end CallLog
