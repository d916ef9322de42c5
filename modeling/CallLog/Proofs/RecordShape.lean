import CallLog.Proofs.Assembly
import CallLog.Proofs.RecordJson

/-!
# Which fields the records of a logger have

A record is one type for five kinds of events, with fields that only some kinds have.
`Record.Shaped` says which: metadata with headers and trailers, a message with messages, authority
and timeout with request headers, a status with trailers, and a peer where the contract admits one.
Every record of a call that keeps the contract is shaped (`Logger.shaped_record`), whatever the clock
and the ceilings. `Json.Shaped` says the same of the members of a payload, in the names of the payload,
and payloads of shaped records have it (`Record.shaped_payload`). `shaped_of_run` is both for all that
a sink receives from a logger.
-/

namespace CallLog

/-! ## Fields -/

/-- The kinds that carry metadata. -/
def EventKind.CarriesMetadata (kind : EventKind) : Prop :=
  kind = .requestHeader ∨ kind = .responseHeader ∨ kind = .trailer

/-- The events that come without a peer: messages, and the headers that their own side sends. -/
def EventKind.LacksPeer (kind : EventKind) (side : Side) : Prop :=
  kind = .requestMessage ∨ kind = .responseMessage ∨ kind = .requestHeader ∧ side = .client
    ∨ kind = .responseHeader ∧ side = .server

/-- A record has the fields that its kind of event has, and sound values in them. -/
structure Record.Shaped (record : Record) : Prop where
  level : record.level = .debug
  metadata : record.metadata.isSome ↔ record.kind.CarriesMetadata
  message : record.message.isSome ↔ record.kind = .requestMessage ∨ record.kind = .responseMessage
  authority : record.authority.isSome ↔ record.kind = .requestHeader
  timeout : record.timeout.isSome → record.kind = .requestHeader
  statusCode : record.statusCode.isSome ↔ record.kind = .trailer
  statusCode_le : ∀ code ∈ record.statusCode, code ≤ 16
  statusMessage : record.statusMessage.isSome → record.kind = .trailer
  statusMessage_ne : ∀ text ∈ record.statusMessage, text ≠ ""
  peer : record.kind.LacksPeer record.side → record.peer = none
  address : ∀ address ∈ record.peer,
    (address.port.isSome ↔ address.kind = .ipv4 ∨ address.kind = .ipv6) ∧ address.kind ≠ .unix

theorem Address.kind_ofPeer_ne (peer : Peer) : (ofPeer peer).kind ≠ .unix := by
  cases peer <;> simp [ofPeer]

theorem Address.sound_of_mem_map {peer : Option Peer} {address : Address}
    (h : address ∈ peer.map ofPeer) :
    (address.port.isSome ↔ address.kind = .ipv4 ∨ address.kind = .ipv6) ∧ address.kind ≠ .unix := by
  obtain ⟨peer, -, rfl⟩ := Option.map_eq_some_iff.1 h
  exact ⟨isSome_port_ofPeer peer, kind_ofPeer_ne peer⟩

theorem Status.ne_empty_of_mem_message? {status : Status} {text : String}
    (h : text ∈ status.message?) : text ≠ "" := by
  obtain ⟨-, hne⟩ := Option.filter_eq_some_iff.1 h
  simpa using hne

/-- Where a side may not name a peer, an event that keeps the contract comes without one. -/
theorem Call.peer_eq_none {forbidden side : Side} {peer : Option Peer}
    (h : ¬(side = forbidden ∧ peer ≠ none)) (hside : side = forbidden) :
    peer.map Address.ofPeer = none := by
  obtain rfl : peer = none := Classical.byContradiction fun hpeer => h ⟨hside, hpeer⟩
  rfl

/-- The record of a call that keeps the contract has the fields of its kind. -/
theorem Logger.shaped_record (logger : Logger) {call : Call} (h : ¬call.Breaches) :
    (logger.record call).Shaped := by
  obtain ⟨info, event⟩ := call
  cases event with
  | requestHeader authority timeout metadata peer =>
    constructor
    case peer =>
      rintro (hkind | hkind | ⟨-, hside⟩ | ⟨hkind, -⟩)
      · cases hkind
      · cases hkind
      · exact Call.peer_eq_none h hside
      · cases hkind
    case address => exact fun _ => Address.sound_of_mem_map
    all_goals simp [record, Record.blank, Record.withMetadata, CallEvent.kind,
      EventKind.CarriesMetadata]
  | responseHeader metadata peer =>
    constructor
    case peer =>
      rintro (hkind | hkind | ⟨hkind, -⟩ | ⟨-, hside⟩)
      · cases hkind
      · cases hkind
      · cases hkind
      · exact Call.peer_eq_none h hside
    case address => exact fun _ => Address.sound_of_mem_map
    all_goals simp [record, Record.blank, Record.withMetadata, CallEvent.kind,
      EventKind.CarriesMetadata]
  | trailer status metadata peer =>
    constructor
    case statusCode_le =>
      rintro _ ⟨⟩
      exact status.code.value_le
    case statusMessage_ne => exact fun _ => Status.ne_empty_of_mem_message?
    case address => exact fun _ => Address.sound_of_mem_map
    all_goals simp [record, Record.blank, Record.withMetadata, CallEvent.kind,
      EventKind.CarriesMetadata, EventKind.LacksPeer]
  | message kind body =>
    obtain rfl | rfl := Call.isMessage_of_accepted h
    all_goals
      constructor
      all_goals simp [record, Record.blank, Record.withMessage, CallEvent.kind,
        EventKind.CarriesMetadata]

/-! ## Members -/

namespace Json

/-- A value has a member of a name. -/
def Has (value : Json) (key : String) : Prop := (value.get? key).isSome

/-- A member of a value is a text. -/
def Says (value : Json) (key text : String) : Prop := value.get? key = some (.str text)

/-- A payload has the members that its type of event has, and sound values in them. -/
structure Shaped (payload : Json) : Prop where
  level : payload.Says "log_level" "LOG_LEVEL_DEBUG"
  metadata : payload.Has "metadata" ↔ payload.Says "event_type" "GRPC_CALL_REQUEST_HEADER"
    ∨ payload.Says "event_type" "GRPC_CALL_RESPONSE_HEADER"
    ∨ payload.Says "event_type" "GRPC_CALL_TRAILER"
  message : payload.Has "message" ↔ payload.Says "event_type" "GRPC_CALL_REQUEST_MESSAGE"
    ∨ payload.Says "event_type" "GRPC_CALL_RESPONSE_MESSAGE"
  authority : payload.Has "authority" ↔ payload.Says "event_type" "GRPC_CALL_REQUEST_HEADER"
  timeout : payload.Has "timeout" → payload.Says "event_type" "GRPC_CALL_REQUEST_HEADER"
  statusCode : payload.Has "status_code" ↔ payload.Says "event_type" "GRPC_CALL_TRAILER"
  statusCode_le : ∀ value, payload.get? "status_code" = some value →
    ∃ code : Nat, value = .int code ∧ code ≤ 16
  statusMessage : payload.Has "status_message" → payload.Says "event_type" "GRPC_CALL_TRAILER"
  statusMessage_ne : ∀ value, payload.get? "status_message" = some value →
    ∃ text, value = .str text ∧ text ≠ ""
  peer : (payload.Says "event_type" "GRPC_CALL_REQUEST_MESSAGE"
      ∨ payload.Says "event_type" "GRPC_CALL_RESPONSE_MESSAGE"
      ∨ payload.Says "event_type" "GRPC_CALL_REQUEST_HEADER"
        ∧ payload.Says "event_logger" "LOGGER_CLIENT"
      ∨ payload.Says "event_type" "GRPC_CALL_RESPONSE_HEADER"
        ∧ payload.Says "event_logger" "LOGGER_SERVER") →
    ¬payload.Has "peer_address"
  address : ∀ address, payload.get? "peer_address" = some address →
    (address.Has "ip_port" ↔ address.Says "type" "TYPE_IPV4" ∨ address.Says "type" "TYPE_IPV6")
      ∧ (∃ type, address.Says "type" type) ∧ ¬address.Says "type" "TYPE_UNIX"

end Json

theorem Address.get?_toJson (address : Address) (key : String) :
    address.toJson.sortKeys.get? key = (address.slots.lookup key).join.map Json.sortKeys := by
  rw [toJson_eq_present]
  exact Json.get?_sortKeys_present (by simp [slots]) key

theorem Address.says_type_iff (address : Address) (kind : AddressKind) :
    address.toJson.sortKeys.Says "type" kind.label ↔ address.kind = kind := by
  rw [Json.Says, get?_toJson]
  simp [slots, Json.sortKeys, AddressKind.label_injective.eq_iff]

theorem Address.has_port_iff (address : Address) :
    address.toJson.sortKeys.Has "ip_port" ↔ address.port.isSome := by
  rw [Json.Has, get?_toJson]
  simp [slots, List.lookup_cons]

namespace Record

variable (record : Record)

theorem says_kind_iff (kind : EventKind) :
    record.payload.Says "event_type" kind.label ↔ record.kind = kind := by
  rw [Json.Says, get?_payload]
  simp [slots, List.lookup_cons, Json.sortKeys, EventKind.label_injective.eq_iff]

theorem says_side_iff (side : Side) :
    record.payload.Says "event_logger" side.label ↔ record.side = side := by
  rw [Json.Says, get?_payload]
  simp [slots, List.lookup_cons, Json.sortKeys, Side.label_injective.eq_iff]

theorem has_iff (key : String) :
    record.payload.Has key ↔ (record.slots.lookup key).join.isSome := by
  rw [Json.Has, get?_payload, Option.isSome_map]

/-- The payload of a shaped record is shaped. -/
theorem shaped_payload {record : Record} (h : record.Shaped) : record.payload.Shaped := by
  have hkind := record.says_kind_iff
  have hside := record.says_side_iff
  have hmetadata : record.payload.Has "metadata" ↔ record.metadata.isSome := by
    simp [has_iff, slots, List.lookup_cons]
  have hmessage : record.payload.Has "message" ↔ record.message.isSome := by
    simp [has_iff, slots, List.lookup_cons]
  have hauthority : record.payload.Has "authority" ↔ record.authority.isSome := by
    simp [has_iff, slots, List.lookup_cons]
  have htimeout : record.payload.Has "timeout" ↔ record.timeout.isSome := by
    simp [has_iff, slots, List.lookup_cons]
  have hcode : record.payload.Has "status_code" ↔ record.statusCode.isSome := by
    simp [has_iff, slots, List.lookup_cons]
  have hdescription : record.payload.Has "status_message" ↔ record.statusMessage.isSome := by
    simp [has_iff, slots, List.lookup_cons]
  have hpeer : record.payload.Has "peer_address" ↔ record.peer.isSome := by
    simp [has_iff, slots, List.lookup_cons]
  constructor
  case level =>
    rw [Json.Says, get?_payload]
    simp [slots, List.lookup_cons, h.level, Level.label, Json.sortKeys]
  case metadata =>
    refine hmetadata.trans (h.metadata.trans ?_)
    exact or_congr (hkind .requestHeader).symm
      (or_congr (hkind .responseHeader).symm (hkind .trailer).symm)
  case message =>
    refine hmessage.trans (h.message.trans ?_)
    exact or_congr (hkind .requestMessage).symm (hkind .responseMessage).symm
  case authority => exact hauthority.trans (h.authority.trans (hkind .requestHeader).symm)
  case timeout => exact fun hhas => (hkind .requestHeader).2 (h.timeout (htimeout.1 hhas))
  case statusCode => exact hcode.trans (h.statusCode.trans (hkind .trailer).symm)
  case statusCode_le =>
    intro value hvalue
    have hslot : record.payload.get? "status_code"
        = (record.statusCode.map fun code => Json.int code.toNat).map Json.sortKeys := by
      simp [get?_payload, slots, List.lookup_cons]
    rw [hslot, Option.map_map] at hvalue
    obtain ⟨code, hcode, rfl⟩ := Option.map_eq_some_iff.1 hvalue
    exact ⟨code.toNat, rfl, UInt32.le_iff_toNat_le.1 (h.statusCode_le code hcode)⟩
  case statusMessage => exact fun hhas => (hkind .trailer).2 (h.statusMessage (hdescription.1 hhas))
  case statusMessage_ne =>
    intro value hvalue
    have hslot : record.payload.get? "status_message"
        = (record.statusMessage.map Json.str).map Json.sortKeys := by
      simp [get?_payload, slots, List.lookup_cons]
    rw [hslot, Option.map_map] at hvalue
    obtain ⟨text, htext, rfl⟩ := Option.map_eq_some_iff.1 hvalue
    exact ⟨text, rfl, h.statusMessage_ne text htext⟩
  case peer =>
    intro hlacks
    have hlacks : record.kind.LacksPeer record.side := by
      refine Or.imp (hkind .requestMessage).1 (Or.imp (hkind .responseMessage).1 (Or.imp ?_ ?_)) hlacks
      · exact And.imp (hkind .requestHeader).1 (hside .client).1
      · exact And.imp (hkind .responseHeader).1 (hside .server).1
    rw [hpeer, h.peer hlacks]
    exact Bool.false_ne_true
  case address =>
    intro value hvalue
    have hslot : record.payload.get? "peer_address"
        = (record.peer.map Address.toJson).map Json.sortKeys := by
      simp [get?_payload, slots, List.lookup_cons]
    rw [hslot, Option.map_map] at hvalue
    obtain ⟨address, haddress, rfl⟩ := Option.map_eq_some_iff.1 hvalue
    obtain ⟨hport, hunix⟩ := h.address address haddress
    have htype := address.says_type_iff
    refine ⟨?_, ⟨_, (htype _).2 rfl⟩, fun hsays => hunix ((htype .unix).1 hsays)⟩
    exact address.has_port_iff.trans (hport.trans (or_congr (htype .ipv4).symm (htype .ipv6).symm))

end Record

/-! ## Runs -/

/-- What a logger writes is shaped. -/
theorem Logger.shaped_of_write_mem (logger : Logger) {actions : List Action} {record : Record}
    (h : .write record ∈ logger.ops actions) (hdirect : .write record ∉ actions) :
    record.Shaped := by
  induction actions generalizing logger with
  | nil => cases h
  | cons action rest ih =>
    rw [List.mem_cons, not_or] at hdirect
    rw [ops, List.mem_append, Option.mem_toList] at h
    rcases h with hop | hrest
    · cases action with
      | log call =>
        obtain ⟨haccepted, hrecord⟩ : call.violation? = none ∧ logger.record call = record := by
          simpa [op?] using hop
        exact hrecord ▸ logger.shaped_record (call.violation?_eq_none_iff.1 haccepted)
      | write direct =>
        obtain rfl : direct = record := by simpa [op?] using hop
        exact absurd rfl hdirect.1
      | close | setClock | clone | records | take => cases hop
    · exact ih _ hrest hdirect.2

namespace Session

variable {σ : Type} [Sink σ]

/-- **Every record that a sink receives from a logger has the fields of its kind**, and its payload
has the members: for any sink and any run that writes through the logger only, whatever the calls, the
ceilings and the readings of the clock. -/
theorem shaped_of_run (session : Session σ) (actions : List Action)
    (h : ∀ record, Action.write record ∉ actions) :
    ∀ record ∈ (session.watched.after actions).sink.written,
      record.Shaped ∧ record.payload.Shaped := by
  intro record hrecord
  have hwritten : (session.watched.after actions).sink.written
      = (session.logger.ops actions).filterMap SinkOp.record? := by
    rw [after_eq, written_applyAll]
    rfl
  rw [hwritten, List.mem_filterMap] at hrecord
  obtain ⟨op, hop, hsome⟩ := hrecord
  cases op with
  | write written =>
    obtain rfl : written = record := Option.some.inj hsome
    have hshaped := session.logger.shaped_of_write_mem hop (h written)
    exact ⟨hshaped, Record.shaped_payload hshaped⟩
  | close | drain => cases hsome

/-- A request header with a peer and, at another reading of the clock, a trailer with a peer of
another transport and an empty description, under a ceiling that leaves all headers out. -/
theorem shaped_of_run_with_peers :
    let info : CallInfo := ⟨1, "service", "method", "1", .server⟩
    let header : Call :=
      ⟨info, .requestHeader "host" (some ⟨1, 5, by decide⟩) [⟨"key", [7]⟩] (some (.other "peer"))⟩
    let trailer : Call :=
      ⟨info, .trailer ⟨.notFound, some ""⟩ [⟨"key", [7]⟩] (some (.ipv4 ⟨127, 0, 0, 1⟩ 80))⟩
    let session : Session MemorySink := ⟨⟨5, ⟨some 0, none⟩⟩, .empty⟩
    let actions : List Action := [.log header, .setClock 9, .log trailer]
    let written :=
      [Logger.record ⟨5, ⟨some 0, none⟩⟩ header, Logger.record ⟨9, ⟨some 0, none⟩⟩ trailer]
    (∀ record, Action.write record ∉ actions)
      ∧ (session.watched.after actions).sink.written = written
      ∧ ∀ record ∈ written, record.Shaped ∧ record.payload.Shaped := by
  intro info header trailer session actions written
  have hlogger : ∀ record, Action.write record ∉ actions := by simp [actions]
  exact ⟨hlogger, rfl, shaped_of_run session actions hlogger⟩

end Session
end CallLog
