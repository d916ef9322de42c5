import CallLog.Proofs.Assembly
import CallLog.Proofs.RecordJson
import Mathlib.Algebra.Group.Nat.Defs

/-!
# The size of a payload can be checked from the payload

What is embedded in a record can be read back from its JSON: headers with their keys and base64
values (`Metadata.ofJson?`), and a base64 message (`Json.bytes?`). `payload_accounts_for_call` says
of every accepted call that its size member is the decimal number of exactly the bytes read back,
that this is within the ceiling for the kind of event, that the truncation mark stands there exactly
when what the caller passed is more than the ceiling, and that what was read back is part of what
the caller passed: some of the headers in order, or the beginning of the message. The ceilings' own
accounts (`Embedded.Accounts`) carry this; the rest is reading back.
-/

namespace CallLog

/-! ## Reading back -/

/-- The byte string of a base64 member. -/
def Json.bytes? : Json → Option Bytes
  | str text => Text.Base64.decode? text.toList
  | _ => none

/-- The header of an object with a key and a base64 value. -/
def Header.ofJson? (json : Json) : Option Header :=
  match json.get? "key", (json.get? "value").bind Json.bytes? with
  | some (.str key), some value => some ⟨key, value⟩
  | _, _ => none

/-- The headers of an object with a list of entries; without the list there are none. -/
def Metadata.ofJson? (json : Json) : Option Metadata :=
  match json.get? "entry" with
  | none => some []
  | some (.arr items) => items.mapM Header.ofJson?
  | some _ => none

/-- The headers in a payload. -/
def Json.embeddedMetadata? (payload : Json) : Option Metadata :=
  (payload.get? "metadata").bind Metadata.ofJson?

/-- The message in a payload. -/
def Json.embeddedMessage? (payload : Json) : Option Bytes :=
  (payload.get? "message").bind Json.bytes?

theorem Json.bytes?_toJson (bytes : Bytes) : (Bytes.toJson bytes).sortKeys.bytes? = some bytes := by
  simp only [Bytes.toJson, sortKeys, bytes?, String.toList_ofList, Text.Base64.decode?_encode]

theorem Header.ofJson?_toJson (header : Header) :
    Header.ofJson? header.toJson.sortKeys = some header := by
  have hnodup : (header.slots.map (·.1)).Nodup := by simp [slots]
  have hget := Json.get?_sortKeys_present hnodup
  rw [toJson_eq_present, Header.ofJson?, hget, hget]
  simp [slots, List.lookup_cons, Json.sortKeys, Json.bytes?_toJson]

theorem Metadata.ofJson?_toJson (metadata : Metadata) :
    Metadata.ofJson? (Metadata.toJson metadata).sortKeys = some metadata := by
  have hitems : ((metadata.map Header.toJson).map Json.sortKeys).mapM Header.ofJson?
      = some metadata := by
    induction metadata with
    | nil => rfl
    | cons header rest ih =>
      rw [List.map_cons, List.map_cons, List.mapM_cons, Header.ofJson?_toJson, ih]
      rfl
  cases metadata with
  | nil => rfl
  | cons header rest =>
    rw [toJson, if_neg (by simp)]
    simpa [ofJson?, Json.sortKeys, Json.sortMembers, Json.insertMember, Json.member, Json.get?]
      using hitems

/-! ## What a payload says about its size -/

/-- A payload tells the size of the part that it embeds and whether this is less than the whole. -/
structure Json.StatesSize (payload : Json) (ceiling : Option Nat) (part whole : Nat) : Prop where
  size : payload.get? "payload_size" = some (.str (Text.number part))
  within : Within ceiling part
  truncated : payload.get? "payload_truncated"
    = if Within ceiling whole then none else some (.bool true)

theorem Record.statesSize_payload {α : Type} {record : Record} {embedded : Embedded α}
    {measure : α → Nat} {ceiling : Option Nat} {whole : α}
    (haccounts : embedded.Accounts measure ceiling whole)
    (hfits : measure embedded.content < 2 ^ 64)
    (hsize : record.payloadSize = UInt64.ofNat embedded.size)
    (htruncated : record.truncated = embedded.truncated) :
    record.payload.StatesSize ceiling (measure embedded.content) (measure whole) := by
  obtain ⟨hexact, hwithin, hmark⟩ := haccounts
  rw [hexact] at hsize hwithin
  refine ⟨?_, hwithin, ?_⟩
  · have hnat : record.payloadSize.toNat = measure embedded.content := by
      rw [hsize, UInt64.toNat_ofNat_of_lt' hfits]
    rw [get?_payload]
    simp [slots, List.lookup_cons, counterJson, Json.sortKeys, hnat]
  · rw [get?_payload]
    by_cases hwhole : Within ceiling (measure whole)
    · have hfalse : record.truncated = false := by
        rw [htruncated, ← Bool.not_eq_true, hmark]
        exact not_not_intro hwhole
      simp [slots, List.lookup_cons, hfalse, hwhole]
    · have htrue : record.truncated = true := by
        rw [htruncated, hmark]
        exact hwhole
      simp [slots, List.lookup_cons, htrue, hwhole, Json.sortKeys]

theorem Record.embeddedMetadata?_payload {record : Record} {metadata : Metadata}
    (h : record.metadata = some metadata) : record.payload.embeddedMetadata? = some metadata := by
  rw [Json.embeddedMetadata?, get?_payload, lookup_metadata_slots, h]
  exact Metadata.ofJson?_toJson metadata

theorem Record.embeddedMessage?_payload {record : Record} {message : Bytes}
    (h : record.message = some message) : record.payload.embeddedMessage? = some message := by
  rw [Json.embeddedMessage?, get?_payload, lookup_message_slots, h]
  exact Json.bytes?_toJson message

/-! ## Calls -/

/-- The bytes that the caller of an event passes as its payload. -/
def CallEvent.size : CallEvent → Nat
  | .requestHeader _ _ metadata _ | .responseHeader metadata _ | .trailer _ metadata _ =>
    metadata.size
  | .message _ body => body.length

/-- A payload accounts for an event: what is embedded in it is part of what the caller passed, and
its size is stated under the ceiling for events of the kind. -/
def Json.AccountsFor (payload : Json) (ceilings : Ceilings) : CallEvent → Prop
  | .requestHeader _ _ metadata _ | .responseHeader metadata _ | .trailer _ metadata _ =>
    ∃ kept, payload.embeddedMetadata? = some kept ∧ kept.Sublist metadata
      ∧ payload.StatesSize ceilings.metadata (Metadata.size kept) metadata.size
  | .message _ body =>
    ∃ kept, payload.embeddedMessage? = some kept ∧ kept <+: body
      ∧ payload.StatesSize ceilings.message kept.length body.length

theorem Record.accountsFor_metadata {record : Record} {ceiling : Option Nat} {metadata : Metadata}
    (hfits : metadata.size < 2 ^ 64)
    (hmetadata : record.metadata = some (metadata.embed ceiling).content)
    (hsize : record.payloadSize = UInt64.ofNat (metadata.embed ceiling).size)
    (htruncated : record.truncated = (metadata.embed ceiling).truncated) :
    ∃ kept, record.payload.embeddedMetadata? = some kept ∧ kept.Sublist metadata
      ∧ record.payload.StatesSize ceiling (Metadata.size kept) metadata.size := by
  have hsub := metadata.sublist_embed ceiling
  have hkept := Nat.lt_of_le_of_lt (Metadata.size_le_of_sublist hsub) hfits
  exact ⟨_, embeddedMetadata?_payload hmetadata, hsub,
    statesSize_payload (metadata.accounts_embed ceiling) hkept hsize htruncated⟩

theorem Record.accountsFor_message {record : Record} {ceiling : Option Nat} {body : Bytes}
    (hfits : body.length < 2 ^ 64)
    (hmessage : record.message = some (Message.embed ceiling body).content)
    (hsize : record.payloadSize = UInt64.ofNat (Message.embed ceiling body).size)
    (htruncated : record.truncated = (Message.embed ceiling body).truncated) :
    ∃ kept, record.payload.embeddedMessage? = some kept ∧ kept <+: body
      ∧ record.payload.StatesSize ceiling kept.length body.length := by
  have hprefix := Message.prefix_embed ceiling body
  have hkept := Nat.lt_of_le_of_lt hprefix.length_le hfits
  exact ⟨_, embeddedMessage?_payload hmessage, hprefix,
    statesSize_payload (Message.accounts_embed ceiling body) hkept hsize htruncated⟩

theorem Logger.accountsFor_record (logger : Logger) {call : Call}
    (hfits : call.event.size < 2 ^ 64) :
    (logger.record call).payload.AccountsFor logger.ceilings call.event := by
  obtain ⟨info, event⟩ := call
  cases event with
  | requestHeader | responseHeader | trailer =>
    exact Record.accountsFor_metadata hfits rfl rfl rfl
  | message => exact Record.accountsFor_message hfits rfl rfl rfl

namespace Session

variable {σ : Type} [Sink σ]

/-- **Size accounting is exact and can be checked from the payload.** An accepted call, in any state
of any session, hands one record to the sink, and the payload of this record accounts for what the
caller passed, if that is less than 2^64 bytes. -/
theorem payload_accounts_for_call (session : Session σ) (call : Call) (haccepted : ¬call.Breaches)
    (hfits : call.event.size < 2 ^ 64) :
    ∃ record, (session.watched.step (.log call)).value.session.sink.written = [record]
      ∧ record.payload.AccountsFor session.logger.ceilings call.event := by
  refine ⟨session.logger.record call, ?_, session.logger.accountsFor_record hfits⟩
  rw [session_step, written_applyAll, Logger.op?, if_pos (call.violation?_eq_none_iff.2 haccepted)]
  rfl

/-- Under a ceiling of 12 bytes, of headers with 10, 10 and 2 bytes the second is left out. -/
theorem payload_accounts_for_headers_over_ceiling :
    let headers : Metadata :=
      [⟨"a", List.replicate 9 1⟩, ⟨"b", List.replicate 9 2⟩, ⟨"c", [3]⟩]
    let call : Call := ⟨⟨1, "service", "method", "1", .client⟩, .responseHeader headers none⟩
    let session : Session MemorySink := ⟨⟨0, ⟨some 12, none⟩⟩, .empty⟩
    ¬call.Breaches ∧ call.event.size < 2 ^ 64
      ∧ ∃ record, (session.watched.step (.log call)).value.session.sink.written = [record]
        ∧ record.payload.embeddedMetadata? = some [⟨"a", List.replicate 9 1⟩, ⟨"c", [3]⟩]
        ∧ record.payload.StatesSize (some 12) 12 22 := by
  intro headers call session
  have haccepted : ¬call.Breaches := by decide
  have hfits : call.event.size < 2 ^ 64 := by decide
  obtain ⟨record, hwritten, kept, hkept, -, hstates⟩ :=
    payload_accounts_for_call session call haccepted hfits
  refine ⟨haccepted, hfits, record, hwritten, ?_⟩
  obtain rfl : session.logger.record call = record := List.singleton_inj.1 hwritten
  have hmetadata : (session.logger.record call).metadata = some _ := rfl
  have hread := Record.embeddedMetadata?_payload hmetadata
  obtain rfl := Option.some.inj (hkept.symm.trans hread)
  exact ⟨hkept, hstates⟩

end Session
end CallLog
