import CallLog.Proofs.GreedySelection
import CallLog.Proofs.RecordShape
import CallLog.Proofs.SizeAccounting

/-!
# What ceilings have a say in

Each kind of event has one ceiling (`Ceilings.ofKind`), and a record depends on the ceilings only
through what is embedded under that one (`record_eq_of_embedsAlike`). So the other ceiling never shows
in it, and whatever the ceilings are, the record differs from the one without ceilings in its payload
fields at most (`record_eq_but_payload`). It does differ as soon as the payload is over its ceiling,
since then it is marked as truncated, and only then (`record_eq_unlimited_iff`).
`ceilings_touch_payload_only` says this of the records that sessions deliver, whatever their sinks;
whether a call is accepted is no matter of ceilings at all.
-/

namespace CallLog

/-! ## Which ceiling counts -/

/-- The ceiling on the payloads of a kind of event. -/
def Ceilings.ofKind (ceilings : Ceilings) : EventKind → Option Nat
  | .requestHeader | .responseHeader | .trailer => ceilings.metadata
  | .requestMessage | .responseMessage => ceilings.message

/-- The payload of an event is embedded alike under two sets of ceilings. -/
def CallEvent.EmbedsAlike (ceilings ceilings' : Ceilings) : CallEvent → Prop
  | .requestHeader _ _ metadata _ | .responseHeader metadata _ | .trailer _ metadata _ =>
    metadata.embed ceilings.metadata = metadata.embed ceilings'.metadata
  | .message _ body => Message.embed ceilings.message body = Message.embed ceilings'.message body

theorem Ceilings.ofKind_of_isMessage (ceilings : Ceilings) {kind : EventKind} (h : kind.IsMessage) :
    ceilings.ofKind kind = ceilings.message := by
  rcases h with rfl | rfl <;> rfl

theorem EventKind.IsMessage.not_carriesMetadata {kind : EventKind} (h : kind.IsMessage) :
    ¬kind.CarriesMetadata := by
  rcases h with rfl | rfl <;> simp [CarriesMetadata]

section
variable {call : Call}

/-- The metadata ceiling has no say in messages. -/
theorem Call.embedsAlike_metadata (ceilings : Ceilings) (hkind : call.event.kind.IsMessage)
    (limit : Option Nat) : call.event.EmbedsAlike { ceilings with metadata := limit } ceilings := by
  obtain ⟨info, event⟩ := call
  cases event with
  | requestHeader | responseHeader | trailer => rcases hkind with hkind | hkind <;> cases hkind
  | message => rfl

/-- The message ceiling has no say in headers and trailers. -/
theorem Call.embedsAlike_message (haccepted : ¬call.Breaches) (ceilings : Ceilings)
    (hkind : call.event.kind.CarriesMetadata) (limit : Option Nat) :
    call.event.EmbedsAlike { ceilings with message := limit } ceilings := by
  obtain ⟨info, event⟩ := call
  cases event with
  | requestHeader | responseHeader | trailer => rfl
  | message kind body =>
    exact absurd hkind (Call.isMessage_of_accepted haccepted).not_carriesMetadata

/-- Within its ceiling, a payload is embedded as if there were none. -/
theorem Call.embedsAlike_unlimited (haccepted : ¬call.Breaches) {ceilings : Ceilings}
    (hwithin : Within (ceilings.ofKind call.event.kind) call.event.size) :
    call.event.EmbedsAlike ceilings .unlimited := by
  obtain ⟨info, event⟩ := call
  cases event with
  | requestHeader | responseHeader | trailer =>
    exact (Metadata.embed_of_within hwithin).trans (Metadata.embed_of_within (within_none _)).symm
  | message kind body =>
    have hkind := ceilings.ofKind_of_isMessage (Call.isMessage_of_accepted haccepted)
    have hbody : Within ceilings.message body.length := hkind ▸ hwithin
    exact (Message.embed_of_within hbody).trans (Message.embed_of_within (within_none _)).symm

end

/-! ## Records -/

namespace Logger

variable (reading : Int) (ceilings ceilings' : Ceilings) (call : Call)

/-- Ceilings show in a record only by what is embedded under them. -/
theorem record_eq_of_embedsAlike {ceilings ceilings' : Ceilings} {call : Call}
    (h : call.event.EmbedsAlike ceilings ceilings') :
    record ⟨reading, ceilings⟩ call = record ⟨reading, ceilings'⟩ call := by
  obtain ⟨info, event⟩ := call
  cases event with
  | requestHeader _ _ metadata | responseHeader metadata | trailer _ metadata =>
    have h : metadata.embed ceilings.metadata = metadata.embed ceilings'.metadata := h
    simp only [record, h]
  | message _ body =>
    have h : Message.embed ceilings.message body = Message.embed ceilings'.message body := h
    simp only [record, h]

/-- All other fields of a record are the same under any ceilings. -/
theorem record_eq_but_payload :
    let limited := record ⟨reading, ceilings⟩ call
    limited = { record ⟨reading, ceilings'⟩ call with
      metadata := limited.metadata
      message := limited.message
      payloadSize := limited.payloadSize
      truncated := limited.truncated } := by
  obtain ⟨info, event⟩ := call
  cases event <;> rfl

variable {call} (haccepted : ¬call.Breaches)
include haccepted

/-- A record is marked as truncated exactly when the payload of its call is over the ceiling. -/
theorem truncated_record_iff :
    (record ⟨reading, ceilings⟩ call).truncated = true
      ↔ ¬Within (ceilings.ofKind call.event.kind) call.event.size := by
  obtain ⟨info, event⟩ := call
  cases event with
  | requestHeader _ _ metadata | responseHeader metadata | trailer _ metadata =>
    exact (metadata.accounts_embed ceilings.metadata).truncated
  | message kind body =>
    have hkind := ceilings.ofKind_of_isMessage (Call.isMessage_of_accepted haccepted)
    rw [CallEvent.kind, hkind]
    exact (Message.accounts_embed ceilings.message body).truncated

/-- Ceilings make no difference to a record exactly when they leave its payload whole. -/
theorem record_eq_unlimited_iff :
    record ⟨reading, ceilings⟩ call = record ⟨reading, .unlimited⟩ call
      ↔ Within (ceilings.ofKind call.event.kind) call.event.size := by
  constructor
  · intro heq
    -- without ceilings nothing is marked, so an equal record is not either
    have hunlimited : Within (Ceilings.unlimited.ofKind call.event.kind) call.event.size := by
      cases call.event.kind <;> exact within_none _
    have hmark := truncated_record_iff reading ceilings haccepted
    rw [heq, truncated_record_iff reading .unlimited haccepted, not_iff_not] at hmark
    exact hmark.1 hunlimited
  · intro hwithin
    exact record_eq_of_embedsAlike reading (Call.embedsAlike_unlimited haccepted hwithin)

end Logger

/-! ## Deliveries -/

namespace Session

variable {σ τ : Type} [Sink σ] [Sink τ]

/-- **Ceilings touch nothing but the payload.** Of two loggers with one reading of the clock, one with
ceilings and one without, on sinks of any kind and in any state, both accept a call or both refuse it.
Of a call that they accept, they deliver records that are equal but for metadata, message, payload size
and truncation mark, and equal altogether exactly if the payload is within the ceiling for its kind of
event. Another ceiling on messages makes no difference to the record of a header or trailer, nor another
one on metadata to the record of a message. Sizes are sums of bytes without a bound; those of a program
are exact as long as they are below 2^64. -/
theorem ceilings_touch_payload_only (reading : Int) (ceilings : Ceilings) (sink : σ) (sink' : τ)
    (call : Call) :
    let under (ceilings : Ceilings) : Session σ := ⟨⟨reading, ceilings⟩, sink⟩
    let unlimited : Session τ := ⟨⟨reading, .unlimited⟩, sink'⟩
    ((under ceilings).step (.log call)).value.outcome
        = (unlimited.step (.log call)).value.outcome
      ∧ (¬call.Breaches → ∃ record whole, (under ceilings).delivered call = [record]
          ∧ unlimited.delivered call = [whole]
          ∧ record = { whole with
              metadata := record.metadata
              message := record.message
              payloadSize := record.payloadSize
              truncated := record.truncated }
          ∧ (record = whole ↔ Within (ceilings.ofKind call.event.kind) call.event.size)
          ∧ (call.event.kind.CarriesMetadata → ∀ limit,
              (under { ceilings with message := limit }).delivered call = [record])
          ∧ (call.event.kind.IsMessage → ∀ limit,
              (under { ceilings with metadata := limit }).delivered call = [record])) := by
  intro under unlimited
  refine ⟨?_, fun haccepted => ?_⟩
  · rw [((under ceilings).step_log call).1, (unlimited.step_log call).1]
  · have hunder (ceilings : Ceilings) :
        (under ceilings).delivered call = [Logger.record ⟨reading, ceilings⟩ call] :=
      delivered_of_accepted _ haccepted
    refine ⟨_, _, hunder ceilings, delivered_of_accepted unlimited haccepted,
      Logger.record_eq_but_payload reading ceilings .unlimited call,
      Logger.record_eq_unlimited_iff reading ceilings haccepted, fun hkind limit => ?_,
      fun hkind limit => ?_⟩
    · have halike := Call.embedsAlike_message haccepted ceilings hkind limit
      rw [hunder, Logger.record_eq_of_embedsAlike reading halike]
    · have halike := Call.embedsAlike_metadata ceilings hkind limit
      rw [hunder, Logger.record_eq_of_embedsAlike reading halike]

/-- The record of 22 bytes of headers differs from the one without ceilings under a ceiling of 12,
whatever the ceiling on messages, and does not under a ceiling of 22. -/
theorem ceilings_touch_payload_only_over_ceiling :
    let headers : Metadata :=
      [⟨"a", List.replicate 9 1⟩, ⟨"b", List.replicate 9 2⟩, ⟨"c", [3]⟩]
    let call : Call := ⟨⟨1, "service", "method", "1", .client⟩, .responseHeader headers none⟩
    let under (ceilings : Ceilings) : Session MemorySink := ⟨⟨0, ceilings⟩, .empty⟩
    ¬call.Breaches
      ∧ (under ⟨some 12, none⟩).delivered call ≠ (under .unlimited).delivered call
      ∧ (under ⟨some 12, some 0⟩).delivered call = (under ⟨some 12, none⟩).delivered call
      ∧ (under ⟨some 22, none⟩).delivered call = (under .unlimited).delivered call := by
  intro headers call under
  have haccepted : ¬call.Breaches := by decide
  obtain ⟨-, hsmall⟩ :=
    ceilings_touch_payload_only 0 ⟨some 12, none⟩ MemorySink.empty MemorySink.empty call
  obtain ⟨-, hlarge⟩ :=
    ceilings_touch_payload_only 0 ⟨some 22, none⟩ MemorySink.empty MemorySink.empty call
  obtain ⟨record, whole, hrecord, hwhole, -, hiff, hmessage, -⟩ := hsmall haccepted
  obtain ⟨record', whole', hrecord', hwhole', -, hiff', -⟩ := hlarge haccepted
  have hover : ¬Within (some 12) call.event.size := by decide
  have hwithin : Within (some 22) call.event.size := by decide
  refine ⟨haccepted, fun heq => ?_, ?_, ?_⟩
  · have heq : [record] = [whole] := hrecord.symm.trans (heq.trans hwhole)
    exact hover (hiff.1 (List.singleton_inj.1 heq))
  · exact (hmessage (.inr (.inl rfl)) (some 0)).trans hrecord.symm
  · rw [hrecord', hiff'.2 hwithin]
    exact hwhole'.symm

end Session
end CallLog
